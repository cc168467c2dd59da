import SpotForecast.Json.Value

/-!
# JSON as it is written

A text can be JSON by its form although some of it denotes no value: a number may be out of range,
a string may have half of a surrogate pair, and arrays may be nested too deeply.  A `Written` keeps
such parts, so that a reader that passes over a member does not ask what it means.

* `Written.value?` is the value that is denoted, if all of it denotes one.
* `Written.only?` is the value of the only member with a key.
-/

namespace SpotForecast.Json

/-- A JSON value as it is written. -/
inductive Written where
  | null
  | bool (b : Bool)
  /-- A number, if it is in range. -/
  | number (n : Option Number)
  | string (s : Option String)
  | array (items : List Written)
  | object (members : List (Option String × Written))

/-- The greatest number of arrays and objects inside each other that a document may have. -/
def documentDepth : Nat := 127

namespace Written

mutual

/-- The value that is denoted, with at most `depth` arrays and objects inside each other. -/
def value? (depth : Nat) : Written → Option Json
  | null => some .null
  | bool b => some (.bool b)
  | number n => n.map .number
  | string s => s.map .string
  | array items => if depth = 0 then none else (values? (depth - 1) items).map .array
  | object members => if depth = 0 then none else (members? (depth - 1) members).map .object

/-- The values that the items of an array denote. -/
def values? (depth : Nat) : List Written → Option (List Json)
  | [] => some []
  | w :: rest => do
    let v ← value? depth w
    let vs ← values? depth rest
    pure (v :: vs)

/-- The members that the members of an object denote. -/
def members? (depth : Nat) : List (Option String × Written) → Option (List (String × Json))
  | [] => some []
  | (key, w) :: rest => do
    let k ← key
    let v ← value? depth w
    let ms ← members? depth rest
    pure ((k, v) :: ms)

end

/-- The member with a key, if just one has it. -/
def only? (key : String) (members : List (Option String × Written)) : Option Written :=
  match members.filter (fun m => m.1 == some key) with
  | [(_, w)] => some w
  | _ => none

/-- Whether every key denotes a text. -/
def hasKeys (members : List (Option String × Written)) : Bool :=
  members.all (fun m => m.1.isSome)

/-- The parts of a record: the items of an array with as many of them, or the members of an object
with the given keys.  An object may have further members, whatever they hold. -/
def parts? (keys : List String) : Written → Option (List Written)
  | array items => if items.length = keys.length then some items else none
  | object members => if hasKeys members then keys.mapM (fun k => only? k members) else none
  | _ => none

/-- The text of a string. -/
def text? : Written → Option String
  | string s => s
  | _ => none

/-- The double nearest to a number. -/
def float? : Written → Option Float
  | number (some n) => n.toFloat?
  | _ => none

/-- A number as a natural number below `limit`. -/
def natBelow? (limit : Nat) : Written → Option Nat
  | number (some (.integer i)) => if 0 ≤ i ∧ i < limit then some i.toNat else none
  | _ => none

end Written

end SpotForecast.Json
