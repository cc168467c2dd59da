import SpotForecast.Calendar.Timestamp
import SpotForecast.Decimal.Reading
import SpotForecast.Decimal.Width
import SpotForecast.Text.Pieces
import SpotForecast.Text.Radix
import SpotForecast.Toml.Value

/-!
# TOML scalars

How strings, numbers, truth values and times are written in a settings file.

* Strings stand between single or double quotation marks, or between three of them over several
  lines; double ones have escapes.
* Numbers may have underscores between digits.  Integers have 64 bits and no leading zeros; they may
  be hexadecimal, octal or binary.
* Times are checked and brought into one form.
-/

namespace SpotForecast.Toml

/-- A control character other than the tab. -/
def isControl (c : Char) : Bool :=
  (c.toNat < 0x20 && c != '\t') || c.toNat == 0x7F

/-- The character that a single letter after a backslash stands for. -/
def escape? : Char → Option Char
  | 'b' => some '\x08'
  | 't' => some '\t'
  | 'n' => some '\n'
  | 'f' => some '\x0c'
  | 'r' => some '\r'
  | '"' => some '"'
  | '\\' => some '\\'
  | _ => none

/-- Puts a character in front of the text that was read. -/
def withChar (c : Char) (r : List Char × List Char) : List Char × List Char :=
  (c :: r.1, r.2)

/-- The text of a string up to its quotation mark, and what follows. -/
def basic : List Char → Option (List Char × List Char)
  | [] => none
  | '"' :: rest => some ([], rest)
  | '\\' :: 'u' :: a :: b :: c :: d :: rest => do
    let x ← Text.scalar? [a, b, c, d]
    (basic rest).map (withChar x)
  | '\\' :: 'U' :: a :: b :: c :: d :: e :: f :: g :: h :: rest => do
    let x ← Text.scalar? [a, b, c, d, e, f, g, h]
    (basic rest).map (withChar x)
  | '\\' :: e :: rest => do
    let x ← escape? e
    (basic rest).map (withChar x)
  | c :: rest => if isControl c ∨ c = '\\' then none else (basic rest).map (withChar c)

/-- The text of a string without escapes up to its quotation mark, and what follows. -/
def literal : List Char → Option (List Char × List Char)
  | [] => none
  | c :: rest =>
    if c = '\'' then some ([], rest)
    else if isControl c then none
    else (literal rest).map (withChar c)

/-- The text after the end of a line. -/
def afterLineEnd : List Char → Option (List Char)
  | '\n' :: rest => some rest
  | '\r' :: '\n' :: rest => some rest
  | _ => none

/-- A blank inside a line. -/
def isSpace (c : Char) : Bool :=
  c == ' ' || c == '\t'

/-- Whether nothing but blanks stands before the end of the line. -/
def endsLine (cs : List Char) : Bool :=
  (afterLineEnd (cs.dropWhile isSpace)).isSome

/-- The text of a string over several lines up to its three quotation marks, and what follows.  Up
to two more marks belong to the text.  After a backslash at the end of a line, blanks and line ends
are skipped. -/
def multiBasic (skipping : Bool) : List Char → Option (List Char × List Char)
  | [] => none
  | '"' :: '"' :: '"' :: '"' :: '"' :: rest => some (['"', '"'], rest)
  | '"' :: '"' :: '"' :: '"' :: rest => some (['"'], rest)
  | '"' :: '"' :: '"' :: rest => some ([], rest)
  | '\\' :: 'u' :: a :: b :: c :: d :: rest => do
    let x ← Text.scalar? [a, b, c, d]
    (multiBasic false rest).map (withChar x)
  | '\\' :: 'U' :: a :: b :: c :: d :: e :: f :: g :: h :: rest => do
    let x ← Text.scalar? [a, b, c, d, e, f, g, h]
    (multiBasic false rest).map (withChar x)
  | '\\' :: e :: rest =>
    match escape? e with
    | some x => (multiBasic false rest).map (withChar x)
    | none => if endsLine (e :: rest) then multiBasic true (e :: rest) else none
  | '\r' :: '\n' :: rest =>
    if skipping then multiBasic true rest else (multiBasic false rest).map (withChar '\n')
  | c :: rest =>
    if skipping ∧ (isSpace c ∨ c = '\n') then multiBasic true rest
    else if c = '\\' ∨ (isControl c ∧ c ≠ '\n') then none
    else (multiBasic false rest).map (withChar c)

/-- The text of a string without escapes over several lines up to its three quotation marks, and
what follows. -/
def multiLiteral : List Char → Option (List Char × List Char)
  | [] => none
  | '\'' :: '\'' :: '\'' :: '\'' :: '\'' :: rest => some (['\'', '\''], rest)
  | '\'' :: '\'' :: '\'' :: '\'' :: rest => some (['\''], rest)
  | '\'' :: '\'' :: '\'' :: rest => some ([], rest)
  | '\r' :: '\n' :: rest => (multiLiteral rest).map (withChar '\n')
  | c :: rest =>
    if isControl c ∧ c ≠ '\n' then none else (multiLiteral rest).map (withChar c)

/-- A text without the line end that it may start with. -/
def dropLineEnd (cs : List Char) : List Char :=
  (afterLineEnd cs).getD cs

/-- Digits of a base without the single underscores between them. -/
def grouped (base : Nat) (cs : List Char) : Option (List Char) :=
  let groups := Text.pieces (· == '_') cs
  if groups.all (fun g => !g.isEmpty && g.all (fun c => (Text.digit? base c).isSome)) then
    some groups.flatten
  else none

/-- Decimal digits without underscores and leading zeros. -/
def wholeDigits (cs : List Char) : Option (List Char) := do
  let digits ← grouped 10 cs
  match digits with
  | '0' :: _ :: _ => none
  | _ => some digits

/-- An integer of 64 bits. -/
def ofInteger (i : Int) : Option Toml :=
  if Decimal.isSigned64 i then some (.integer i) else none

/-- A natural number in a base. -/
def inBase (base : Nat) (cs : List Char) : Option Toml := do
  let n ← Text.number? base (← grouped base cs)
  ofInteger n

/-- An integer. -/
def integer? : List Char → Option Toml
  | '0' :: 'x' :: rest => inBase 16 rest
  | '0' :: 'o' :: rest => inBase 8 rest
  | '0' :: 'b' :: rest => inBase 2 rest
  | '-' :: rest => do ofInteger (-Decimal.valueOf (← wholeDigits rest))
  | '+' :: rest => do ofInteger (Decimal.valueOf (← wholeDigits rest))
  | cs => do ofInteger (Decimal.valueOf (← wholeDigits cs))

/-- The digits of an exponent with its sign. -/
def exponent? : List Char → Option (List Char)
  | '-' :: rest => (grouped 10 rest).map ('-' :: ·)
  | '+' :: rest => grouped 10 rest
  | cs => grouped 10 cs

/-- A double without its sign, without underscores. -/
def unsignedReal? (cs : List Char) : Option (List Char) := do
  if cs = ['i', 'n', 'f'] ∨ cs = ['n', 'a', 'n'] then return cs
  let mark (c : Char) := c == '.' || c == 'e' || c == 'E'
  let whole ← wholeDigits (cs.takeWhile (fun c => !mark c))
  match cs.dropWhile (fun c => !mark c) with
  | [] => none
  | '.' :: rest =>
    let isExponent (c : Char) := c == 'e' || c == 'E'
    let places ← grouped 10 (rest.takeWhile (fun c => !isExponent c))
    match rest.dropWhile (fun c => !isExponent c) with
    | [] => pure (whole ++ '.' :: places)
    | _ :: power => do pure (whole ++ '.' :: places ++ 'e' :: (← exponent? power))
  | _ :: power => do pure (whole ++ 'e' :: (← exponent? power))

/-- A double.  A positive one that is too great is refused; a negative one becomes infinite. -/
def real? (cs : List Char) : Option Toml := do
  let (sign, rest) := match cs with
    | '-' :: rest => (['-'], rest)
    | '+' :: rest => ([], rest)
    | _ => ([], cs)
  let digits ← unsignedReal? rest
  match Decimal.read (sign ++ digits) with
  | .ok x =>
    if x.isInf ∧ !Decimal.isNegative x ∧ digits ≠ ['i', 'n', 'f'] then none else some (.real x)
  | .error _ => none

/-- A date, and what follows. -/
def date? (cs : List Char) : Option (List Char × List Char) := do
  let (year, rest) ← Timestamp.exactly 4 cs
  let rest ← Timestamp.oneOf ['-'] rest
  let (month, rest) ← Timestamp.exactly 2 rest
  let rest ← Timestamp.oneOf ['-'] rest
  let (day, rest) ← Timestamp.exactly 2 rest
  if (Date.mk year month day).exists? then some (cs.take 10, rest) else none

/-- A time of day, and what follows. -/
def clock? (cs : List Char) : Option (List Char × List Char) := do
  let (hour, rest) ← Timestamp.exactly 2 cs
  let rest ← Timestamp.oneOf [':'] rest
  let (minute, rest) ← Timestamp.exactly 2 rest
  let rest ← Timestamp.oneOf [':'] rest
  let (second, rest) ← Timestamp.exactly 2 rest
  if 23 < hour ∨ 59 < minute ∨ 60 < second then none
  else
    let (nanos, rest) ← Timestamp.fraction rest
    let digits := ((Decimal.padded '0' 9 nanos).reverse.dropWhile (· == '0')).reverse
    some (cs.take 8 ++ (if nanos = 0 then [] else '.' :: digits), rest)

/-- An offset; one of nothing is positive. -/
def offset? (cs : List Char) : Option (List Char) :=
  match cs with
  | ['Z'] => some ['Z']
  | ['z'] => some ['Z']
  | _ => do
    let rest ← Timestamp.oneOf ['+', '-'] cs
    let (hours, rest) ← Timestamp.exactly 2 rest
    let rest ← Timestamp.oneOf [':'] rest
    let (minutes, rest) ← Timestamp.exactly 2 rest
    if rest.isEmpty ∧ hours ≤ 23 ∧ minutes ≤ 59 then
      some (if hours = 0 ∧ minutes = 0 then '+' :: cs.drop 1 else cs)
    else none

/-- A date, a time of day, or a date and a time of day that may have an offset. -/
def time? (cs : List Char) : Option Toml :=
  match date? cs with
  | none => do
    let (clock, rest) ← clock? cs
    if rest.isEmpty then some (.time (String.ofList clock)) else none
  | some (date, []) => some (.time (String.ofList date))
  | some (date, rest) => do
    let rest ← Timestamp.oneOf ['T', 't', ' '] rest
    let (clock, rest) ← clock? rest
    let offset ← if rest.isEmpty then some [] else offset? rest
    some (.time (String.ofList (date ++ 'T' :: clock ++ offset)))

/-- A character of a scalar that is no string. -/
def isScalarChar (c : Char) : Bool :=
  c.isAlphanum || c == '_' || c == '+' || c == '-' || c == '.' || c == ':'

/-- The characters of a scalar that is no string, and what follows.  A date may have a blank before
its time of day. -/
def spanScalar (cs : List Char) : List Char × List Char :=
  let word := cs.takeWhile isScalarChar
  let rest := cs.dropWhile isScalarChar
  match rest with
  | ' ' :: d :: later =>
    if word.length = 10 ∧ (date? word).isSome ∧ Decimal.isDigit d then
      (word ++ ' ' :: (d :: later).takeWhile isScalarChar, (d :: later).dropWhile isScalarChar)
    else (word, rest)
  | _ => (word, rest)

/-- A scalar that is no string. -/
def ofWord (word : List Char) : Option Toml :=
  if word = "true".toList then some (.bool true)
  else if word = "false".toList then some (.bool false)
  else match integer? word with
    | some v => some v
    | none => match real? word with
      | some v => some v
      | none => time? word

end SpotForecast.Toml
