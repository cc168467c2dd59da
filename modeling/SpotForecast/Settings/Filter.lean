import SpotForecast.Decimal.Reading
import SpotForecast.Fault
import SpotForecast.Settings.Expression
import SpotForecast.Text.Case
import SpotForecast.Text.Pieces

/-!
# Filters for messages

A filter says which messages to the operator are written.  It is a list of directives with commas
between them, and `Filter.check` says whether a text is one.

* A directive is a level or a target, perhaps with a span in brackets, perhaps with a level after an
  equals sign.  In braces a span may have fields, and a field a value: a number or a regular
  expression.
* Blanks around a directive are left out where its parts are looked for, but not where they are
  taken: places are counted in bytes without the blanks before the directive, and the parts are cut
  out of the text with them.  A cut inside a character aborts.
-/

namespace SpotForecast

namespace Filter

/-- The names of the levels. -/
def levelNames : List String := ["off", "error", "warn", "info", "debug", "trace"]

/-- The greatest number of a level. -/
def greatestLevel : Nat := 5

/-- A level, by name or by number. -/
def isLevel (cs : List Char) : Bool :=
  match Decimal.readNatural cs with
  | some n => n ≤ greatestLevel
  | none => lowered (String.ofList cs) ∈ levelNames

/-- A text without some bytes at its start, if they are whole characters. -/
def dropBytes : Nat → List Char → Option (List Char)
  | 0, cs => some cs
  | _ + 1, [] => none
  | n + 1, c :: rest => if c.utf8Size ≤ n + 1 then dropBytes (n + 1 - c.utf8Size) rest else none

/-- Some bytes at the start of a text, if they are whole characters. -/
def takeBytes : Nat → List Char → Option (List Char)
  | 0, _ => some []
  | _ + 1, [] => none
  | n + 1, c :: rest =>
    if c.utf8Size ≤ n + 1 then (takeBytes (n + 1 - c.utf8Size) rest).map (c :: ·) else none

/-- The part of a text between two places in bytes. -/
def cut (whole : List Char) (first last : Nat) : Except Abort (List Char) :=
  match (dropBytes first whole).bind (takeBytes (last - first)) with
  | some part => .ok part
  | none => .error .insideCharacter

/-- A character that a directive may start with. -/
def isOpening (c : Char) : Bool :=
  c == '-' || c == ':' || c == '_' || Text.isLetterOrNumeral c

/-- A field of a span: a name, perhaps with a value after an equals sign. -/
def isField (cs : List Char) : Bool :=
  match Text.pieces (· == '=') cs with
  | _ :: value :: _ =>
    match Decimal.read value with
    | .ok _ => true
    | .error _ => Expression.isValid value
  | _ => !cs.isEmpty

/-- Where the reading of a directive stands. -/
inductive State where
  | start
  /-- In a target, which may turn out to be a level. -/
  | target
  | span (first : Nat)
  | field (first : Nat)
  | fields
  | closed
  | level (first : Nat)
deriving DecidableEq, Repr

/-- The state after the character at a place, if the directive can go on with it. -/
def next (whole : List Char) (place : Nat) (c : Char) : State → Except Abort (Option State)
  | .start =>
    if c = '[' then pure (some (.span (place + 1)))
    else pure (if isOpening c then some .target else none)
  | .target => do
    if c = '=' ∨ c = '[' then
      let _ ← cut whole 0 place
      pure (some (if c = '=' then .level (place + 1) else .span (place + 1)))
    else pure (some .target)
  | .span first => do
    if c = ']' ∨ c = '\x7b' then
      let _ ← cut whole first place
      pure (some (if c = ']' then .closed else .field (place + 1)))
    else pure (some (.span first))
  | .field first => do
    if c = '\x7d' then
      let field ← cut whole first place
      pure (if isField field then some .fields else none)
    else pure (some (.field first))
  | .fields => pure (if c = ']' then some .closed else none)
  | .closed => pure (if c = '=' then some (.level (place + 1)) else none)
  | .level first => pure (some (.level first))

/-- Whether a directive may end in a state. -/
def mayEnd (whole : List Char) : State → Except Abort Bool
  | .target => pure true
  | .closed => pure true
  | .level first => do
    match dropBytes first whole with
    | some level => pure (level.isEmpty || isLevel level)
    | none => throw .insideCharacter
  | _ => pure false

/-- Whether the rest of a directive, which starts at a place, completes it. -/
def completes (whole : List Char) (place : Nat) (s : State) : List Char → Except Abort Bool
  | [] => mayEnd whole s
  | c :: rest => do
    match ← next whole place c s with
    | some s => completes whole (place + c.utf8Size) s rest
    | none => pure false

/-- Whether a text is a directive. -/
def isDirective (whole : List Char) : Except Abort Bool :=
  completes whole 0 .start (Text.trim whole)

/-- Whether some texts are directives; the first one that is none decides. -/
def areDirectives : List (List Char) → Except Abort Bool
  | [] => pure true
  | directive :: rest => do
    if directive.isEmpty then areDirectives rest
    else if ← isDirective directive then areDirectives rest
    else pure false

/-- Whether a text is a filter. -/
def check (text : String) : Except Abort Bool :=
  areDirectives (Text.pieces (· == ',') text.toList)

end Filter

end SpotForecast
