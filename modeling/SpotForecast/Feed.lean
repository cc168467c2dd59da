import SpotForecast.Calendar.Timestamp
import SpotForecast.Decimal.Reading
import SpotForecast.Observation

/-!
# The price feed

The feed is a text with one observation per line.  A line has fields between tabs: a running
number, the price, the time, and the three parts of the category.  Further fields are passed over.

* Lines of blanks alone are skipped, and counted.
* A line with a quotation mark is refused, then one with too few fields, then one with a bad price,
  then one with a bad time.
* `Feed.parse` gives the observations in the order of their lines, or the fault of the first bad
  line with its number.
-/

namespace SpotForecast.Feed

/-- Why a line is no observation. -/
inductive RowFault where
  | quoted (line : List Char)
  | fewFields (count : Nat)
  | price (field : List Char) (reason : Decimal.ReadFault)
  | time (field : List Char)
deriving DecidableEq, Repr

/-- The fault of a feed: the number of its first bad line, and what is wrong with it. -/
structure Fault where
  /-- The number of the line, from one. -/
  line : Nat
  cause : RowFault
deriving DecidableEq, Repr

/-- The number of fields that a line must have. -/
def fieldCount : Nat := 6

/-- The wording of the cause of a fault. -/
def RowFault.message : RowFault → String
  | .quoted line => "quoted strings not supported: " ++ String.ofList line
  | .fewFields count => "expected " ++ toString fieldCount ++ " fields, got " ++ toString count
  | .price field reason =>
    "invalid price '" ++ String.ofList field ++ "': " ++ reason.message
  | .time field => "invalid timestamp '" ++ String.ofList field ++ "'"

/-- The wording of a fault. -/
def Fault.message (e : Fault) : String :=
  "line " ++ toString e.line ++ ": " ++ e.cause.message

/-- The fault of a feed as a fault of its source. -/
def Fault.toSource (e : Fault) : SourceFault :=
  .parse e.message

/-- A line without anything but blanks. -/
def isBlankLine (line : List Char) : Bool :=
  line.all Text.isBlank

/-- The observation that fields denote. -/
def ofFields : List (List Char) → Except RowFault Observation
  | _ :: price :: time :: resourceType :: description :: zone :: _ =>
    match Decimal.read (Text.trim price) with
    | .error reason => .error (.price price reason)
    | .ok x =>
      match Timestamp.ofFeed? (Text.trim time) with
      | none => .error (.time time)
      | some t =>
        .ok ⟨t, x, ⟨String.ofList resourceType, String.ofList description, String.ofList zone⟩⟩
  | fields => .error (.fewFields fields.length)

/-- The observation that a line denotes. -/
def ofLine (line : List Char) : Except RowFault Observation :=
  if '"' ∈ line then .error (.quoted line) else ofFields (Text.pieces (· == '\t') line)

/-- The observations of lines, the first of which has the number `first`. -/
def ofLines (first : Nat) : List (List Char) → Except Fault (List Observation)
  | [] => .ok []
  | line :: rest =>
    if isBlankLine line then ofLines (first + 1) rest
    else match ofLine line with
      | .error cause => .error ⟨first, cause⟩
      | .ok o => (ofLines (first + 1) rest).map (o :: ·)

/-- The observations of a feed. -/
def parse (text : String) : Except Fault (List Observation) :=
  ofLines 1 (Text.lines text.toList)

end SpotForecast.Feed
