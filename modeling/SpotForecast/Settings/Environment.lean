import SpotForecast.Calendar.Timestamp
import SpotForecast.Settings.Layer
import SpotForecast.Text.Blank
import SpotForecast.Text.Letters

/-!
# The environment

Variables with names like `PRICECAST__FORECAST__NUM_LAGS` set a member of a section; the case of
the letters does not matter.

`Environment.load` adds variables from a text such as a file `.env` has: lines `NAME=value`, perhaps
after `export`, with quotation marks, escapes, comments, and `$NAME` for the value of another
variable.  Variables that exist keep their values, and nothing is read after a line that is wrong.
-/

namespace SpotForecast

/-- The variables of a process. -/
abbrev Environment := List (String × String)

namespace Environment

/-- The start of the names that set members of sections. -/
def mark : List Char := "pricecast__".toList

/-- A name with a point in place of every two underscores. -/
def dotted : List Char → List Char
  | '_' :: '_' :: rest => '.' :: dotted rest
  | c :: rest => c :: dotted rest
  | [] => []

/-- The path that a variable sets, if it sets any. -/
def path? (name : String) : Option (List Setting.Step) :=
  let cs := (lowered name).toList
  if mark.isPrefixOf cs then some (Setting.pathOf (dotted (cs.drop mark.length))) else none

/-- Members with those that the environment sets. -/
def apply (env : Environment) (found : Setting.Members) : Except Abort Setting.Members :=
  env.foldlM (fun found (name, value) =>
    match path? name with
    | some path => Setting.put path (Setting.ofText value) found
    | none => pure found) found

/-- Where a line of a text with quotation marks ends. -/
inductive Quoting where
  | plain
  | blank
  | escape
  | single
  | singleEscape
  | double
  | doubleEscape
  | comment
deriving DecidableEq, Repr

/-- The state after a character. -/
def Quoting.next (q : Quoting) (c : Char) : Quoting :=
  match q with
  | .plain =>
    if c = '\\' then .escape
    else if c = '"' then .double
    else if c = '\'' then .single
    else if Text.isBlank c ∧ c ≠ '\n' ∧ c ≠ '\r' then .blank
    else .plain
  | .blank =>
    if c = '#' then .comment
    else if c = '\\' then .escape
    else if c = '"' then .double
    else if c = '\'' then .single
    else .plain
  | .escape => .plain
  | .single => if c = '\\' then .singleEscape else if c = '\'' then .plain else .single
  | .singleEscape => .single
  | .double => if c = '\\' then .doubleEscape else if c = '"' then .plain else .double
  | .doubleEscape => .double
  | .comment => .comment

/-- The lines of a text: what has been read of the current line, the last character first, the state
at its end, and whether it started with a comment.  A line goes on after a line feed between
quotation marks; `none` stands for the end of a text that is not the end of a line. -/
def linesFrom (read : List Char) (q : Quoting) : List Char → List (Option (List Char))
  | [] =>
    if read.isEmpty then []
    else if q = .plain ∨ q = .comment then [some read.reverse]
    else if (Text.trimStart read.reverse).head? = some '#' then [some []]
    else [none]
  | '\n' :: rest =>
    let line := read.reverse
    if (Text.trimStart line).head? = some '#' then some [] :: linesFrom [] .plain rest
    else
      let q := if q = .comment then .comment else q.next '\n'
      if q = .plain ∨ q = .comment then
        some (Text.dropReturn line) :: linesFrom [] .plain rest
      else linesFrom ('\n' :: read) q rest
  | c :: rest =>
    let q := q.next c
    linesFrom (if q = .comment then read else c :: read) q rest

/-- A character of the name of a variable. -/
def isNameChar (c : Char) : Bool :=
  c.isAlphanum || c == '_' || c == '.'

/-- The name of a variable, and what follows. -/
def name? (cs : List Char) : Option (List Char × List Char) :=
  match cs with
  | [] => none
  | c :: _ =>
    if c.isAlpha || c == '_' then some (cs.takeWhile isNameChar, cs.dropWhile isNameChar) else none

/-- The value of a variable: what the process has, else what the text has said so far. -/
def valueOf (env said : Environment) (name : List Char) : List Char :=
  let name := String.ofList name
  match env.lookup name with
  | some v => v.toList
  | none => ((said.lookup name).getD "").toList

/-- How the reader of a value stands. -/
structure Reading where
  /-- What has been read, the last character first. -/
  done : List Char
  /-- The name after a dollar sign, the last character first, and whether it stands in braces. -/
  pending : Option (List Char × Bool)
  quote : Option Char
  escaped : Bool
  ended : Bool

/-- A reader at the start of a value. -/
def Reading.start : Reading := ⟨[], none, none, false, false⟩

/-- The reader with the value of its variable put in. -/
def Reading.settle (env said : Environment) (r : Reading) : Reading :=
  match r.pending with
  | none => r
  | some (name, _) =>
    { r with
      done := (valueOf env said name.reverse).reverse ++ r.done
      pending := none }

/-- A character that has no meaning for the variable of the reader. -/
def Reading.plainStep (r : Reading) (c : Char) : Reading :=
  if c = '$' then { r with pending := some ([], false) }
  else if r.quote = some '"' then
    if c = '"' then { r with quote := none }
    else if c = '\\' then { r with escaped := true }
    else { r with done := c :: r.done }
  else if c = '\'' ∨ c = '"' then { r with quote := some c }
  else if c = '\\' then { r with escaped := true }
  else if c = ' ' ∨ c = '\t' then { r with ended := true }
  else { r with done := c :: r.done }

/-- The character that stands for one after a backslash. -/
def unescape? (c : Char) : Option Char :=
  if c = '\\' ∨ c = '\'' ∨ c = '"' ∨ c = '$' ∨ c = ' ' then some c
  else if c = 'n' then some '\n'
  else none

/-- A character after a dollar sign and a part of a name. -/
def Reading.variableStep (env said : Environment) (r : Reading) (name : List Char)
    (braces : Bool) (c : Char) : Reading :=
  if Text.isLetterOrNumeral c then { r with pending := some (c :: name, braces) }
  else if braces then
    if c = '\x7d' then r.settle env said else { r with pending := some (c :: name, true) }
  else if c = '\x7b' ∧ name.isEmpty then { r with pending := some ([], true) }
  else
    let r := r.settle env said
    if c = '$' then { r with pending := some ([], false) } else { r with done := c :: r.done }

/-- The value that is written in the rest of a line. -/
def readValue (env said : Environment) (r : Reading) : List Char → Option (List Char)
  | [] =>
    match r.pending, r.quote with
    | some (_, true), _ => none
    | _, some _ => none
    | _, none => some (r.settle env said).done.reverse
  | c :: rest =>
    if r.ended then
      if c = ' ' ∨ c = '\t' then readValue env said r rest
      else if c = '#' then some r.done.reverse
      else none
    else if r.escaped then
      match unescape? c with
      | some x => readValue env said { r with done := x :: r.done, escaped := false } rest
      | none => none
    else if r.quote = some '\'' then
      readValue env said
        (if c = '\'' then { r with quote := none } else { r with done := c :: r.done }) rest
    else match r.pending with
      | some (name, braces) => readValue env said (r.variableStep env said name braces c) rest
      | none => readValue env said (r.plainStep c) rest

/-- The text after an equals sign that blanks may stand before. -/
def afterEquals (cs : List Char) : Option (List Char) :=
  Timestamp.oneOf ['='] (Text.trimStart cs)

/-- The name of the variable of a line and the text after its equals sign.  The word `export` may
stand before the name, and it may be a name itself. -/
def assigned (line : List Char) : Option (List Char × List Char) := do
  let (name, rest) ← name? line
  match afterEquals rest with
  | some value => pure (name, value)
  | none =>
    if name = "export".toList then
      let (name, rest) ← name? (Text.trimStart rest)
      let value ← afterEquals rest
      pure (name, value)
    else none

/-- What a line sets: nothing at all if it is wrong, and nothing if it is empty. -/
def readLine (env said : Environment) (line : List Char) : Option (Option (String × String)) :=
  let line := Text.trim line
  if line.isEmpty ∨ line.head? = some '#' then some none
  else do
    let (name, rest) ← assigned line
    let rest := Text.trimStart rest
    let value ← if rest.isEmpty ∨ rest.head? = some '#' then some []
      else readValue env said Reading.start rest
    pure (some (String.ofList name, String.ofList value))

/-- The environment with a variable, if it does not have one of that name.  No value can have a
zero character. -/
def define (name value : String) (env : Environment) : Except Abort Environment :=
  if (env.lookup name).isSome then .ok env
  else if '\x00' ∈ value.toList then .error .zeroInValue
  else .ok (env ++ [(name, value)])

/-- The environment after some lines; `said` is what the lines before them said. -/
def loadLines (env said : Environment) : List (Option (List Char)) → Except Abort Environment
  | [] => .ok env
  | none :: _ => .ok env
  | some line :: rest =>
    match readLine env said line with
    | none => .ok env
    | some none => loadLines env said rest
    | some (some (name, value)) => do
      let env ← define name value env
      loadLines env ((name, value) :: said) rest

/-- The environment with the variables of a text. -/
def load (text : String) (env : Environment) : Except Abort Environment :=
  let cs := match text.toList with
    | '\ufeff' :: rest => rest
    | cs => cs
  loadLines env [] (linesFrom [] .plain cs)

end Environment

end SpotForecast
