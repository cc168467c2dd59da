import SpotForecast.Calendar.Timestamp

/-!
# Patterns for dates

A pattern is text with fields that start with a percent sign, such as `%Y-%m-%d %H:%M:%S`.
`Pattern.parse` splits it into parts and `Pattern.render` fills them in for an instant in UTC, with
English names.

* A numeric field may have a mark for its padding: `-` none, `_` blanks, `0` zeros.  Fields of
  other kinds and fields that stand for several others take no mark.
* A field that does not exist makes the whole pattern unusable: `Pattern.parse` gives nothing.
-/

namespace SpotForecast.Pattern

/-- How a number is filled up to its width. -/
inductive Padding where
  | none
  | zero
  | blank
deriving DecidableEq, Repr

/-- The numbers that a pattern can show. -/
inductive Quantity where
  | year
  | century
  | yearOfCentury
  | isoYear
  | isoYearOfCentury
  | quarter
  | month
  | day
  | weekFromSunday
  | weekFromMonday
  /-- The week by the Thursday rule. -/
  | isoWeek
  /-- The day of the week, Sunday being 0. -/
  | weekdayFromSunday
  /-- The day of the week, Monday being 1. -/
  | weekdayFromMonday
  | ordinal
  | hour
  /-- The hour on a dial of twelve. -/
  | dialHour
  | minute
  | second
  | nanos
  | unixSeconds
deriving DecidableEq, Repr

/-- The texts that a pattern can show. -/
inductive Wording where
  | monthName
  | shortMonthName
  | weekdayName
  | shortWeekdayName
  /-- Whether the hour is before noon, in capitals. -/
  | upperHalf
  | lowerHalf
  | zoneName
  | offset
  | colonOffset
  /-- The offset with seconds. -/
  | longOffset
  | hourOffset
  /-- The fraction of the second with its point, as long as it has to be. -/
  | fraction
  | fixedFraction (point : Bool) (digits : Nat)
  | timestamp
deriving DecidableEq, Repr

/-- A part of a pattern. -/
inductive Part where
  | literal (c : Char)
  | number (quantity : Quantity) (padding : Padding)
  | wording (w : Wording)
deriving DecidableEq, Repr

/-- Numbers filled with zeros, with a character between them. -/
def joined (mark : Char) : List Quantity → List Part
  | [] => []
  | [q] => [.number q .zero]
  | q :: rest => .number q .zero :: .literal mark :: joined mark rest

/-- The parts that a single letter stands for. -/
def field? (c : Char) : Option (List Part) :=
  match c with
  | 'Y' => some [.number .year .zero]
  | 'C' => some [.number .century .zero]
  | 'y' => some [.number .yearOfCentury .zero]
  | 'G' => some [.number .isoYear .zero]
  | 'g' => some [.number .isoYearOfCentury .zero]
  | 'q' => some [.number .quarter .none]
  | 'm' => some [.number .month .zero]
  | 'd' => some [.number .day .zero]
  | 'e' => some [.number .day .blank]
  | 'U' => some [.number .weekFromSunday .zero]
  | 'W' => some [.number .weekFromMonday .zero]
  | 'V' => some [.number .isoWeek .zero]
  | 'w' => some [.number .weekdayFromSunday .none]
  | 'u' => some [.number .weekdayFromMonday .none]
  | 'j' => some [.number .ordinal .zero]
  | 'H' => some [.number .hour .zero]
  | 'k' => some [.number .hour .blank]
  | 'I' => some [.number .dialHour .zero]
  | 'l' => some [.number .dialHour .blank]
  | 'M' => some [.number .minute .zero]
  | 'S' => some [.number .second .zero]
  | 'f' => some [.number .nanos .zero]
  | 's' => some [.number .unixSeconds .none]
  | 'B' => some [.wording .monthName]
  | 'b' | 'h' => some [.wording .shortMonthName]
  | 'A' => some [.wording .weekdayName]
  | 'a' => some [.wording .shortWeekdayName]
  | 'p' => some [.wording .upperHalf]
  | 'P' => some [.wording .lowerHalf]
  | 'Z' => some [.wording .zoneName]
  | 'z' => some [.wording .offset]
  | '+' => some [.wording .timestamp]
  | 'D' | 'x' => some (joined '/' [.month, .day, .yearOfCentury])
  | 'F' => some (joined '-' [.year, .month, .day])
  | 'T' | 'X' => some (joined ':' [.hour, .minute, .second])
  | 'R' => some (joined ':' [.hour, .minute])
  | 'r' => some (joined ':' [.dialHour, .minute, .second] ++ [.literal ' ', .wording .upperHalf])
  | 'v' =>
    some [.number .day .blank, .literal '-', .wording .shortMonthName, .literal '-',
      .number .year .zero]
  | 'c' =>
    some ([.wording .shortWeekdayName, .literal ' ', .wording .shortMonthName, .literal ' ',
      .number .day .blank, .literal ' '] ++ joined ':' [.hour, .minute, .second] ++
      [.literal ' ', .number .year .zero])
  | '%' => some [.literal '%']
  | 'n' => some [.literal '\n']
  | 't' => some [.literal '\t']
  | _ => none

/-- The number of digits that a character gives to a fraction. -/
def fractionWidth? (c : Char) : Option Nat :=
  if c = '3' then some 3 else if c = '6' then some 6 else if c = '9' then some 9 else none

/-- The parts of a field without a mark for its padding, which starts with `c`, and the text after
it. -/
def fieldAt? (c : Char) (rest : List Char) : Option (List Part × List Char) :=
  match field? c with
  | some parts => some (parts, rest)
  | none =>
    match c, rest with
    | ':', 'z' :: rest => some ([.wording .colonOffset], rest)
    | ':', ':' :: 'z' :: rest => some ([.wording .longOffset], rest)
    | ':', ':' :: ':' :: 'z' :: rest => some ([.wording .hourOffset], rest)
    | '.', 'f' :: rest => some ([.wording .fraction], rest)
    | '.', d :: 'f' :: rest =>
      (fractionWidth? d).map (fun width => ([.wording (.fixedFraction true width)], rest))
    | d, 'f' :: rest =>
      (fractionWidth? d).map (fun width => ([.wording (.fixedFraction false width)], rest))
    | _, _ => none

/-- The padding that a mark asks for. -/
def padding? (c : Char) : Option Padding :=
  if c = '-' then some .none
  else if c = '_' then some .blank
  else if c = '0' then some .zero
  else none

/-- A numeric part with another padding. -/
def repad? (padding : Padding) : List Part → Option (List Part)
  | [.number q _] => some [.number q padding]
  | _ => none

/-- The parts of the field after a percent sign, and the text after it. -/
def scanField : List Char → Option (List Part × List Char)
  | [] => none
  | c :: rest =>
    match padding? c with
    | none => fieldAt? c rest
    | some padding =>
      match rest with
      | [] => none
      | d :: rest => do
        let (parts, rest) ← fieldAt? d rest
        let parts ← repad? padding parts
        pure (parts, rest)

/-- The parts of a pattern; `fuel` bounds their number. -/
def parts (fuel : Nat) (cs : List Char) : Option (List Part) :=
  match fuel, cs with
  | _, [] => some []
  | 0, _ => none
  | fuel + 1, c :: rest =>
    if c = '%' then do
      let (first, rest) ← scanField rest
      let others ← parts fuel rest
      pure (first ++ others)
    else (parts fuel rest).map (.literal c :: ·)

/-- The parts of a pattern, if all its fields exist. -/
def parse (pattern : String) : Option (List Part) :=
  parts pattern.toList.length pattern.toList

/-- The names of the months. -/
def monthNames : List String :=
  ["January", "February", "March", "April", "May", "June", "July", "August", "September",
    "October", "November", "December"]

/-- The names of the days of the week, from Monday. -/
def weekdayNames : List String :=
  ["Monday", "Tuesday", "Wednesday", "Thursday", "Friday", "Saturday", "Sunday"]

/-- A number of at most two digits.  The tens are one character, whatever their number. -/
def twoPlaces (padding : Padding) (n : Nat) : List Char :=
  let tens := match n / 10, padding with
    | 0, .none => []
    | 0, .blank => [' ']
    | t, _ => [Char.ofNat (48 + t)]
  tens ++ [Char.ofNat (48 + n % 10)]

/-- A number filled up to a width; a sign counts. -/
def wide (padding : Padding) (width : Nat) (sign : List Char) (n : Nat) : List Char :=
  let digits := Decimal.digitsOf n
  match padding with
  | .none => sign ++ digits
  | .zero => sign ++ digits.leftpad (width - sign.length) '0'
  | .blank => (sign ++ digits).leftpad width ' '

/-- A year; outside 0 to 9999 it has a sign. -/
def yearPlaces (padding : Padding) (year : Int) : List Char :=
  if 0 ≤ year ∧ year ≤ 9999 then wide padding 4 [] year.natAbs
  else wide padding 5 [if year < 0 then '-' else '+'] year.natAbs

/-- The lowest eight bits of a number. -/
def lowByte (i : Int) : Nat :=
  (i % 256).toNat

/-- A number of a pattern. -/
def Quantity.render (t : Instant) (padding : Padding) : Quantity → List Char
  | .year => yearPlaces padding t.date.year
  | .century => twoPlaces padding (lowByte (t.date.year / 100))
  | .yearOfCentury => twoPlaces padding (t.date.year % 100).toNat
  | .isoYear => yearPlaces padding t.date.isoWeek.1
  | .isoYearOfCentury => twoPlaces padding (t.date.isoWeek.1 % 100).toNat
  | .quarter => Decimal.digitsOf t.date.quarter
  | .month => twoPlaces padding t.date.month
  | .day => twoPlaces padding t.date.day
  | .weekFromSunday => twoPlaces padding ((t.date.ordinal + 6 - t.date.daysSinceSunday) / 7)
  | .weekFromMonday => twoPlaces padding ((t.date.ordinal + 6 - t.date.daysSinceMonday) / 7)
  | .isoWeek => twoPlaces padding t.date.isoWeek.2
  | .weekdayFromSunday => Decimal.digitsOf t.date.daysSinceSunday
  | .weekdayFromMonday => Decimal.digitsOf (t.date.daysSinceMonday + 1)
  | .ordinal => wide padding 3 [] t.date.ordinal
  | .hour => twoPlaces padding t.hour
  | .dialHour => twoPlaces padding (if t.hour % 12 = 0 then 12 else t.hour % 12)
  | .minute => twoPlaces padding t.minute
  | .second => twoPlaces padding t.second
  | .nanos => wide padding 9 [] t.subsecond
  | .unixSeconds => wide padding 9 (if t.seconds < 0 then ['-'] else []) t.seconds.natAbs

/-- A text of a pattern. -/
def Wording.render (t : Instant) : Wording → List Char
  | .monthName => (monthNames.getD (t.date.month - 1) "").toList
  | .shortMonthName => (monthNames.getD (t.date.month - 1) "").toList.take 3
  | .weekdayName => (weekdayNames.getD t.date.daysSinceMonday "").toList
  | .shortWeekdayName => (weekdayNames.getD t.date.daysSinceMonday "").toList.take 3
  | .upperHalf => if t.hour < 12 then ['A', 'M'] else ['P', 'M']
  | .lowerHalf => if t.hour < 12 then ['a', 'm'] else ['p', 'm']
  | .zoneName => "UTC".toList
  | .offset => "+0000".toList
  | .colonOffset => "+00:00".toList
  | .longOffset => "+00:00:00".toList
  | .hourOffset => "+00".toList
  | .fraction => t.fractionText
  | .fixedFraction point digits =>
    (if point then ['.'] else []) ++ (Decimal.padded '0' 9 t.subsecond).take digits
  | .timestamp => t.rfc3339Chars ++ "+00:00".toList

/-- A part of a pattern, filled in. -/
def Part.render (t : Instant) : Part → List Char
  | .literal c => [c]
  | .number q padding => q.render t padding
  | .wording w => w.render t

/-- All parts of a pattern, filled in. -/
def render (parts : List Part) (t : Instant) : List Char :=
  parts.flatMap (Part.render t)

end SpotForecast.Pattern
