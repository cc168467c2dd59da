import SpotForecast.Calendar.Pattern
import SpotForecast.Decimal.Fixed
import SpotForecast.Decimal.Width
import SpotForecast.Grid.Basic
import SpotForecast.Text.Pieces

/-!
# Tables

A table is the text of some rows: a line of names, then a line per row with its time and its
values.  A `Layout` says how times and values are written and what stands between them.

The name of a column goes into a template, in place of every empty pair of braces.  A pattern for
times with an unknown field, and a number of digits that needs more than 16 bits, are noticed only
where a row is written.
-/

namespace SpotForecast

/-- How a table is written. -/
structure Layout where
  dateColumn : String
  datePattern : String
  columnTemplate : String
  precision : Nat
  lineEnd : String
  separator : String
deriving DecidableEq, Repr

namespace Layout

/-- The template of a name that is written as it is. -/
def bareTemplate : String := "\x7b\x7d"

/-- Tables as the commands print them: times to the second, four digits after the point, and tabs
between fields. -/
def standard : Layout where
  dateColumn := "date"
  datePattern := "%Y-%m-%d %H:%M:%S"
  columnTemplate := "\x7b\x7d__price"
  precision := 4
  lineEnd := "\n"
  separator := "\t"

/-- A template with a name in place of every empty pair of braces. -/
def fill (name : List Char) : List Char → List Char
  | [] => []
  | [c] => [c]
  | c :: d :: rest =>
    if c = '\x7b' ∧ d = '\x7d' then name ++ fill name rest else c :: fill name (d :: rest)

/-- The fields of the line of names. -/
def headerFields (layout : Layout) (columns : List String) : List (List Char) :=
  layout.dateColumn.toList ::
    columns.map (fun name => fill name.toList layout.columnTemplate.toList)

/-- The line of names, without its end. -/
def header (layout : Layout) (columns : List String) : List Char :=
  Text.joinPieces layout.separator.toList (layout.headerFields columns)

/-- The fields of the line of a row. -/
def rowFields (layout : Layout) (pattern : List Pattern.Part) (r : Row) : List (List Char) :=
  Pattern.render pattern r.time :: r.values.map (Decimal.fixed layout.precision)

/-- The line of a row, with its end. -/
def row (layout : Layout) (pattern : List Pattern.Part) (r : Row) : List Char :=
  Text.joinPieces layout.separator.toList (layout.rowFields pattern r) ++ layout.lineEnd.toList

/-- The lines of rows, if there are none or their times and values can be written. -/
def body (layout : Layout) (rows : List Row) : Except Abort (List Char) :=
  if rows.isEmpty then .ok []
  else
    match Pattern.parse layout.datePattern with
    | none => .error .unknownPattern
    | some pattern =>
      if layout.precision < Decimal.limit16 then .ok (rows.flatMap (layout.row pattern))
      else .error .tooManyDigits

/-- A table. -/
def table (layout : Layout) (columns : List String) (rows : List Row) : Except Abort String := do
  let lines ← layout.body rows
  pure (String.ofList (layout.header columns ++ layout.lineEnd.toList ++ lines))

end Layout

/-- A grid as a table. -/
def Grid.table (layout : Layout) (g : Grid) : Except Abort String :=
  layout.table g.columns g.rows

end SpotForecast
