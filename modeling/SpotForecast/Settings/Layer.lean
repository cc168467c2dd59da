import SpotForecast.Decimal.Reading
import SpotForecast.Decimal.Shortest
import SpotForecast.Decimal.Width
import SpotForecast.Fault
import SpotForecast.Json.Writer
import SpotForecast.Text.Case
import SpotForecast.Text.Pieces

/-!
# Layers of settings

Settings come from several layers: defaults, a file, the environment.  A later layer replaces
values of an earlier one and is merged into its tables; keys are compared without regard to case.

* `Setting.pathOf` is the path that a key of the top level denotes: names and positions in lists.
* `Setting.put` adds one value at a path.
* `Setting.ofText` takes the text of an environment variable as a truth value, an integer, a double
  or a text, whichever fits first.
* `Setting.nat?`, `Setting.bool?` and `Setting.text?` convert a value to what a setting needs:
  numbers to texts and texts to numbers, and both to truth values.
-/

namespace SpotForecast

/-- A value in the settings. -/
inductive Setting where
  | bool (b : Bool)
  | integer (i : Int)
  | real (x : Float)
  | text (s : String)
  /-- A list; a section may be written as the list of its members. -/
  | list (items : List Setting)
  | table (members : List (String × Setting))
  /-- Nothing; it fills a list up to a position. -/
  | nothing

namespace Setting

/-- The members of a table. -/
abbrev Members := List (String × Setting)

/-- The members of a value; one that is no table has none. -/
def members : Setting → Members
  | table ms => ms
  | _ => []

/-- The items of a value; one that is no list has none. -/
def items : Setting → List Setting
  | list vs => vs
  | _ => []

/-- Members with a value for a key. -/
def assign (key : String) (value : Setting) : Members → Members
  | [] => [(key, value)]
  | (k, v) :: rest => if k = key then (key, value) :: rest else (k, v) :: assign key value rest

mutual

/-- Members with a value merged into that of a key. -/
def merge (key : String) (value : Setting) (found : Members) : Members :=
  match value with
  | table incoming =>
    let old := (found.lookup (lowered key)).getD (table [])
    assign (lowered key) (mergeAll incoming old) found
  | v => assign (lowered key) v found

/-- A value with members merged into it.  It becomes a table if it is none and there are any. -/
def mergeAll : Members → Setting → Setting
  | [], old => old
  | (key, value) :: rest, old => mergeAll rest (table (merge key value old.members))

end

/-- A step on the way to a value. -/
inductive Step where
  | name (key : String)
  /-- An item of a list; a negative position counts from the end. -/
  | position (index : Int)
deriving DecidableEq, Repr

/-- A list cannot have as many items as this. -/
def itemLimit : Nat := Decimal.limit32

/-- The place of a position in a list with some number of items. -/
def place (index : Int) (count : Nat) : Except Abort Nat :=
  if 0 ≤ index then if index < itemLimit then .ok index.toNat else .error .listPosition
  else if index.natAbs ≤ count then .ok (count - index.natAbs)
  else .error .listPosition

/-- A list with an item at a place; it is filled up to there with nothing. -/
def setItem (n : Nat) (value : Setting) (vs : List Setting) : List Setting :=
  (vs ++ List.replicate (n + 1 - vs.length) nothing).set n value

/-- A value in which another one stands at a path.  What stands in the way is replaced by a table or
a list. -/
def putIn (value : Setting) : List Step → Setting → Except Abort Setting
  | [], _ => .ok value
  | [.name key], here => .ok (table (merge key value here.members))
  | .name key :: path, here => do
    let inner ← putIn value path ((here.members.lookup (lowered key)).getD nothing)
    pure (table (assign (lowered key) inner here.members))
  | .position index :: path, here => do
    let n ← place index here.items.length
    let inner ← putIn value path (here.items[n]?.getD nothing)
    pure (list (setItem n inner here.items))

/-- Members with a value at a path. -/
def put (path : List Step) (value : Setting) (found : Members) : Except Abort Members := do
  pure (← putIn value path (table found)).members

/-- A character of a name in a path. -/
def isNameChar (c : Char) : Bool :=
  c.isAlphanum || c == '_' || c == '-' || c == ' '

/-- The names that a text denotes, with points between them. -/
def names? (text : List Char) : Option (List Step) :=
  (Text.pieces (· == '.') text).mapM (fun name =>
    if name.isEmpty || !name.all isNameChar then none
    else some (.name (String.ofList name)))

/-- The position that stands between brackets, perhaps with blanks around it. -/
def position? (text : List Char) : Option Step :=
  let blank (c : Char) := c == ' ' || c == '\t'
  let number := ((text.dropWhile blank).reverse.dropWhile blank).reverse
  if number.head? = some '+' then none
  else match Decimal.readInteger number with
    | some i => if Decimal.isSigned64 i then some (.position i) else none
    | none => none

/-- The steps of a position and what follows its bracket, up to the next opening one: a closing
bracket, and names that start with a point. -/
def piece? (text : List Char) : Option (List Step) :=
  let inner := text.takeWhile (· != ']')
  match text.dropWhile (· != ']') with
  | [] => none
  | [_] => (position? inner).map (fun p => [p])
  | _ :: '.' :: rest => do pure ((← position? inner) :: (← names? rest))
  | _ => none

/-- The path that a text denotes: a name, then names with a point before them and positions between
brackets. -/
def path? (text : List Char) : Option (List Step) :=
  match Text.pieces (· == '[') text with
  | first :: rest => do
    let start ← names? first
    let more ← rest.mapM piece?
    pure (start ++ more.flatten)
  | [] => none

/-- The path of a key.  A key that denotes no path is a name by itself. -/
def pathOf (text : List Char) : List Step :=
  (path? text).getD [.name (String.ofList text)]

/-- The text of an environment variable as a setting. -/
def ofText (s : String) : Setting :=
  if lowered s = "true" then bool true
  else if lowered s = "false" then bool false
  else match Decimal.readInteger s.toList with
    | some i => if Decimal.isSigned64 i then integer i else ofReal
    | none => ofReal
where
  /-- The text as a double, or as it is. -/
  ofReal : Setting :=
    match Decimal.read s.toList with
    | .ok x => real x
    | .error _ => text s

/-- The texts that are true. -/
def trueTexts : List String := ["true", "on", "yes"]

/-- The texts that are false. -/
def falseTexts : List String := ["false", "off", "no"]

/-- The nearest natural number below `2 ^ 64`, halves away from zero. -/
def roundedNat (x : Float) : Nat :=
  x.round.toUInt64.toNat

/-- A setting as a natural number below a limit. -/
def nat? (limit : Nat) (v : Setting) : Option Nat := do
  let n ← match v with
    | bool b => some (if b then 1 else 0)
    | integer i => if 0 ≤ i then some i.toNat else none
    | real x => some (roundedNat x)
    | text s =>
      if lowered s ∈ trueTexts then some 1
      else if lowered s ∈ falseTexts then some 0
      else Decimal.readNatural s.toList
    | _ => none
  if n < limit then some n else none

/-- A setting as a truth value. -/
def bool? : Setting → Option Bool
  | bool b => some b
  | integer i => some (i != 0)
  | real x => some (!(x == 0.0))
  | text s =>
    if lowered s ∈ "1" :: trueTexts then some true
    else if lowered s ∈ "0" :: falseTexts then some false
    else none
  | _ => none

/-- A setting as a text. -/
def text? : Setting → Option String
  | bool b => some (if b then "true" else "false")
  | integer i => some (String.ofList (Json.integerText i))
  | real x => some (String.ofList (Decimal.plain x))
  | text s => some s
  | _ => none

end Setting

end SpotForecast
