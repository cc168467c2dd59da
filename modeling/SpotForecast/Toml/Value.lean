/-!
# TOML values

Values of a settings file.  A table knows how it came about, because that decides what may still be
added to it:

* a table between braces is closed;
* a table with a header of its own takes further tables, but no second header;
* a table that was only named on the way to another one may still get its header;
* a table made by a dotted key takes further dotted keys, but no header.
-/

namespace SpotForecast

/-- How a table came about. -/
inductive Toml.Origin where
  /-- It was written between braces. -/
  | closed
  | header
  /-- It stands in the path of another header. -/
  | implied
  | dotted
deriving DecidableEq, Repr

/-- A TOML value. -/
inductive Toml where
  | string (s : String)
  | integer (i : Int)
  | real (x : Float)
  | bool (b : Bool)
  /-- A date, a time or both, in its usual form. -/
  | time (text : String)
  | array (items : List Toml)
  /-- The tables under a repeated header, the last one first. -/
  | tables (items : List Toml)
  | table (origin : Toml.Origin) (members : List (String × Toml))

namespace Toml

/-- The members of a table. -/
abbrev Members := List (String × Toml)

/-- Members with one of them changed; nothing if there is none with the key. -/
def replace (key : String) (value : Toml) : Members → Members
  | [] => []
  | (k, v) :: rest => if k = key then (k, value) :: rest else (k, v) :: replace key value rest

/-- Changes the table at a path.  Tables that do not exist are made; `dotted` says that the path
belongs to a dotted key, which may not enter a table with a header. -/
def change (dotted : Bool) (f : Origin → Members → Option Members) :
    List String → Origin → Members → Option Members
  | [], origin, members => f origin members
  | key :: path, _, members =>
    let made := if dotted then Origin.dotted else Origin.implied
    match members.lookup key with
    | none => do
      let inner ← change dotted f path made []
      pure (members ++ [(key, .table made inner)])
    | some (.table origin inner) =>
      if origin = .closed ∨ (dotted ∧ origin = .header) then none
      else do
        let inner ← change dotted f path origin inner
        pure (replace key (.table origin inner) members)
    | some (.tables (.table origin inner :: earlier)) => do
      let inner ← change dotted f path origin inner
      pure (replace key (.tables (.table origin inner :: earlier)) members)
    | some _ => none

/-- Adds a member that must not exist yet. -/
def add (key : String) (value : Toml) (members : Members) : Option Members :=
  if (members.lookup key).isSome then none else some (members ++ [(key, value)])

/-- Adds the value of a dotted key to a table. -/
def assign (path : List String) (value : Toml) (members : Members) : Option Members :=
  let inner := path.dropLast
  change true (fun origin found =>
    if (origin == .dotted) == !inner.isEmpty then add (path.getLast?.getD "") value found
    else none)
    inner .header members

/-- Opens the table of a header. -/
def openTable (path : List String) (members : Members) : Option Members :=
  change false (fun _ found =>
    let key := path.getLast?.getD ""
    match found.lookup key with
    | none => some (found ++ [(key, .table .header [])])
    | some (.table .implied inner) => some (replace key (.table .header inner) found)
    | some _ => none) path.dropLast .header members

/-- Opens one more table of a repeated header. -/
def openRepeated (path : List String) (members : Members) : Option Members :=
  change false (fun _ found =>
    let key := path.getLast?.getD ""
    match found.lookup key with
    | none => some (found ++ [(key, .tables [.table .header []])])
    | some (.tables items) => some (replace key (.tables (.table .header [] :: items)) found)
    | some _ => none) path.dropLast .header members

/-- Adds the value of a dotted key below the table of a header. -/
def assignBelow (header path : List String) (value : Toml) (members : Members) : Option Members :=
  change false (fun _ found => assign path value found) header .header members

end Toml

end SpotForecast
