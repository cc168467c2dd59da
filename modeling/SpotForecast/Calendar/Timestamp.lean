import SpotForecast.Calendar.Instant
import SpotForecast.Decimal.Digits
import SpotForecast.Text.Blank

/-!
# Timestamps

The written forms of an instant.

* `Instant.rfc3339` writes an instant in UTC, with as few of 0, 3, 6 and 9 digits of a second as
  lose nothing.  Years outside 0 to 9999 have a sign.
* `Timestamp.strict` reads a date, one of `T`, `t` and a blank, a time and an offset, each number
  with its full width.
* `Timestamp.spaced` reads numbers of any width with blanks before them, and an offset in hours
  and minutes.
* `Timestamp.relaxed` is the form of settings and stored documents: blanks between all parts, a
  fraction, and an offset that may be `Z` or `UTC`.

All three give `Fields`; `Fields.instant?` says which fields name an instant: the date has to
exist, a second may be 60, an offset is shorter than a day, and both the local time and the
instant have to lie within the calendar.
-/

namespace SpotForecast

namespace Timestamp

/-- The numbers of a written timestamp. -/
structure Fields where
  date : Date
  hour : Nat
  minute : Nat
  /-- The second; 60 is a leap second. -/
  second : Nat
  nanos : Nat
  /-- The seconds by which the place is ahead of UTC. -/
  offset : Int
deriving DecidableEq, Repr

/-- The instant that written numbers name. -/
def Fields.instant? (f : Fields) : Option Instant :=
  let leap := if f.second = 60 then 1 else 0
  let wall := f.date.toDay * Instant.secondsPerDay + f.hour * 3600 + f.minute * 60 +
    (f.second - leap : Nat)
  let t : Instant := ⟨wall - f.offset, f.nanos + leap * Instant.nanosPerSecond⟩
  if f.date.exists? ∧ Date.firstYear ≤ f.date.year ∧ f.date.year ≤ Date.lastYear ∧
      f.hour ≤ 23 ∧ f.minute ≤ 59 ∧ f.second ≤ 60 ∧ f.offset.natAbs < 86400 ∧ t.inCalendar then
    some t
  else none

/-- The text after one of some characters. -/
def oneOf (allowed : List Char) : List Char → Option (List Char)
  | [] => none
  | c :: rest => if c ∈ allowed then some rest else none

/-- A number of exactly `width` digits, and the text after it. -/
def exactly (width : Nat) (cs : List Char) : Option (Nat × List Char) :=
  let digits := cs.take width
  if digits.length = width ∧ digits.all Decimal.isDigit then
    some (Decimal.valueOf digits, cs.drop width)
  else none

/-- A number of one to `width` digits after any blanks, and the text after it. -/
def atMost (width : Nat) (cs : List Char) : Option (Nat × List Char) :=
  let (digits, rest) := Decimal.spanDigitsUpTo width (Text.trimStart cs)
  if digits.isEmpty then none else some (Decimal.valueOf digits, rest)

/-- A number of any width, and the text after it. -/
def unbounded (cs : List Char) : Option (Nat × List Char) :=
  let (digits, rest) := Decimal.spanDigits cs
  if digits.isEmpty then none else some (Decimal.valueOf digits, rest)

/-- A year after any blanks: with a sign it has any number of digits, otherwise up to four. -/
def signedYear (cs : List Char) : Option (Int × List Char) :=
  match Text.trimStart cs with
  | '-' :: rest => (unbounded rest).map (fun (n, rest) => (-n, rest))
  | '+' :: rest => (unbounded rest).map (fun (n, rest) => (n, rest))
  | rest => (atMost 4 rest).map (fun (n, rest) => (n, rest))

/-- The nanoseconds of an optional fraction, and the text after it.  Digits after the ninth are
passed over. -/
def fraction (cs : List Char) : Option (Nat × List Char) :=
  match cs with
  | '.' :: rest =>
    let (digits, rest) := Decimal.spanDigits rest
    let kept := digits.take 9
    if kept.isEmpty then none
    else some (Decimal.valueOf kept * Nat.pow 10 (9 - kept.length), rest)
  | _ => some (0, cs)

/-- The sign of an offset, and the text after it.  The minus sign proper is as good as the
hyphen. -/
def offsetSign : List Char → Option (Int × List Char)
  | '+' :: rest => some (1, rest)
  | '-' :: rest => some (-1, rest)
  | '\u2212' :: rest => some (-1, rest)
  | _ => none

/-- The minutes of an offset, below 60, and the text after them. -/
def offsetMinutes (cs : List Char) : Option (Nat × List Char) :=
  (exactly 2 cs).bind (fun (n, rest) => if n < 60 then some (n, rest) else none)

/-- A mark that may stand between the hours and the minutes of an offset. -/
def isOffsetGap (c : Char) : Bool :=
  c == ':' || Text.isBlank c

/-- An offset with a sign, hours, any number of colons and blanks, and minutes. -/
def looseOffset (cs : List Char) : Option (Int × List Char) := do
  let (sign, rest) ← offsetSign (Text.trimStart cs)
  let (hours, rest) ← exactly 2 rest
  let (minutes, rest) ← offsetMinutes (rest.dropWhile isOffsetGap)
  pure (sign * (hours * 3600 + minutes * 60 : Nat), rest)

/-- An offset of full width with one colon, or `Z`. -/
def strictOffset (cs : List Char) : Option (Int × List Char) :=
  match oneOf ['Z', 'z'] cs with
  | some rest => some (0, rest)
  | none => do
    let (sign, rest) ← offsetSign cs
    let (hours, rest) ← exactly 2 rest
    let rest ← oneOf [':'] rest
    let (minutes, rest) ← offsetMinutes rest
    pure (sign * (hours * 3600 + minutes * 60 : Nat), rest)

/-- An offset that may be `Z` or `UTC`. -/
def relaxedOffset (cs : List Char) : Option (Int × List Char) :=
  let cs := Text.trimStart cs
  if String.ofList ((cs.take 3).map Char.toUpper) = "UTC" then some (0, cs.drop 3)
  else match oneOf ['Z', 'z'] cs with
    | some rest => some (0, rest)
    | none => looseOffset cs

/-- The full-width form. -/
def strict (cs : List Char) : Option Fields := do
  let (year, rest) ← exactly 4 cs
  let rest ← oneOf ['-'] rest
  let (month, rest) ← exactly 2 rest
  let rest ← oneOf ['-'] rest
  let (day, rest) ← exactly 2 rest
  let rest ← oneOf ['T', 't', ' '] rest
  let (hour, rest) ← exactly 2 rest
  let rest ← oneOf [':'] rest
  let (minute, rest) ← exactly 2 rest
  let rest ← oneOf [':'] rest
  let (second, rest) ← exactly 2 rest
  let (nanos, rest) ← fraction rest
  let (offset, rest) ← strictOffset rest
  if rest.isEmpty then some ⟨⟨year, month, day⟩, hour, minute, second, nanos, offset⟩ else none

/-- The form with numbers of any width. -/
def spaced (cs : List Char) : Option Fields := do
  let (year, rest) ← signedYear cs
  let rest ← oneOf ['-'] rest
  let (month, rest) ← atMost 2 rest
  let rest ← oneOf ['-'] rest
  let (day, rest) ← atMost 2 rest
  let (hour, rest) ← atMost 2 rest
  let rest ← oneOf [':'] rest
  let (minute, rest) ← atMost 2 rest
  let rest ← oneOf [':'] rest
  let (second, rest) ← atMost 2 rest
  let (offset, rest) ← looseOffset rest
  if rest.isEmpty then some ⟨⟨year, month, day⟩, hour, minute, second, 0, offset⟩ else none

/-- The form of settings and stored documents. -/
def relaxed (cs : List Char) : Option Fields := do
  let (year, rest) ← signedYear cs
  let rest ← oneOf ['-'] (Text.trimStart rest)
  let (month, rest) ← atMost 2 rest
  let rest ← oneOf ['-'] (Text.trimStart rest)
  let (day, rest) ← atMost 2 rest
  let rest ← oneOf ['T', 't', ' '] rest
  let (hour, rest) ← atMost 2 rest
  let rest ← oneOf [':'] (Text.trimStart rest)
  let (minute, rest) ← atMost 2 rest
  let rest ← oneOf [':'] (Text.trimStart rest)
  let (second, rest) ← atMost 2 rest
  let (nanos, rest) ← fraction rest
  let (offset, rest) ← relaxedOffset rest
  if (Text.trimStart rest).isEmpty then
    some ⟨⟨year, month, day⟩, hour, minute, second, nanos, offset⟩
  else none

/-- The instant of a line of the price feed: the full-width form, else the one with numbers of any
width. -/
def ofFeed? (cs : List Char) : Option Instant :=
  match (strict cs).bind Fields.instant? with
  | some t => some t
  | none => (spaced cs).bind Fields.instant?

/-- The instant of a setting or a stored document. -/
def ofDocument? (cs : List Char) : Option Instant :=
  (relaxed cs).bind Fields.instant?

end Timestamp

namespace Instant

/-- A year with at least four digits, and with a sign where it needs more or is negative. -/
def yearText (year : Int) : List Char :=
  if 0 ≤ year ∧ year ≤ 9999 then Decimal.padded '0' 4 year.natAbs
  else (if year < 0 then '-' else '+') :: Decimal.padded '0' 4 year.natAbs

/-- A number of two digits. -/
def twoDigits (n : Nat) : List Char :=
  Decimal.padded '0' 2 n

/-- The digits of a second that lose nothing: none, three, six or nine. -/
def fractionDigits (t : Instant) : List Char :=
  let nanos := t.subsecond
  if nanos = 0 then []
  else if nanos % 1000000 = 0 then Decimal.padded '0' 3 (nanos / 1000000)
  else if nanos % 1000 = 0 then Decimal.padded '0' 6 (nanos / 1000)
  else Decimal.padded '0' 9 nanos

/-- The fraction of a second with its point, if it is not zero. -/
def fractionText (t : Instant) : List Char :=
  if t.subsecond = 0 then [] else '.' :: t.fractionDigits

/-- The date and time in UTC, without an offset. -/
def rfc3339Chars (t : Instant) : List Char :=
  let d := t.date
  yearText d.year ++ '-' :: twoDigits d.month ++ '-' :: twoDigits d.day ++ 'T' ::
    twoDigits t.hour ++ ':' :: twoDigits t.minute ++ ':' :: twoDigits t.second ++ t.fractionText

/-- The written form of an instant in UTC. -/
def rfc3339 (t : Instant) : String :=
  String.ofList (t.rfc3339Chars ++ ['Z'])

end Instant

end SpotForecast
