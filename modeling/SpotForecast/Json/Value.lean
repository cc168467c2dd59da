import SpotForecast.Decimal.Width

/-!
# JSON values

Values as a document holds them.  Integers and doubles are told apart, because `1` may name a
feature of a decision tree and `1.0` may not.

* `Json.get?` looks a member up by its key.
* `Json.sorted` puts the members of every object in the order of their keys and keeps the last of
  several members with one key.  A stored document is read in this form.
-/

namespace SpotForecast

/-- A JSON number: an integer, or a double. -/
inductive Json.Number where
  /-- An integer that was written without point and exponent. -/
  | integer (i : Int)
  | real (x : Float)
deriving DecidableEq

/-- A JSON value. -/
inductive Json where
  | null
  | bool (b : Bool)
  | number (n : Json.Number)
  | string (s : String)
  | array (items : List Json)
  | object (members : List (String × Json))

namespace Json

/-- The double nearest to a number, if it is finite. -/
def Number.toFloat? (n : Number) : Option Float :=
  let x := match n with
    | .integer i => Float.ofInt i
    | .real x => x
  if x.isFinite then some x else none

/-- A number as an index: a non-negative integer of at most 64 bits. -/
def Number.toIndex? : Number → Option Nat
  | .integer i => if 0 ≤ i ∧ i < Decimal.limit64 then some i.toNat else none
  | .real _ => none

/-- The value of the first member with a key. -/
def lookup (key : String) : List (String × Json) → Option Json
  | [] => none
  | (k, v) :: rest => if k = key then some v else lookup key rest

/-- The member of an object with a key. -/
def get? (key : String) : Json → Option Json
  | .object members => lookup key members
  | _ => none

/-- The value reached by following keys through nested objects. -/
def path? : List String → Json → Option Json
  | [], v => some v
  | key :: rest, v => (v.get? key).bind (path? rest)

/-- A member put into its place among members sorted by key; it replaces one with its key. -/
def insertMember (key : String) (value : Json) : List (String × Json) → List (String × Json)
  | [] => [(key, value)]
  | (k, v) :: rest =>
    if key < k then (key, value) :: (k, v) :: rest
    else if key = k then (key, value) :: rest
    else (k, v) :: insertMember key value rest

/-- Members sorted by key, the last one with each key kept. -/
def sortMembers (members : List (String × Json)) : List (String × Json) :=
  members.foldl (fun done (key, value) => insertMember key value done) []

mutual

/-- A value in which the members of every object are sorted by key. -/
def sorted : Json → Json
  | .array items => .array (sortedItems items)
  | .object members => .object (sortMembers (sortedMembers members))
  | v => v

/-- The items of an array, each with sorted members. -/
def sortedItems : List Json → List Json
  | [] => []
  | v :: rest => sorted v :: sortedItems rest

/-- The members of an object in their old order, each value with sorted members. -/
def sortedMembers : List (String × Json) → List (String × Json)
  | [] => []
  | (k, v) :: rest => (k, sorted v) :: sortedMembers rest

end

/-- A member that is looked up is smaller than the list of members. -/
theorem sizeOf_lt_of_lookup {key : String} {members : List (String × Json)} {v : Json}
    (h : lookup key members = some v) : sizeOf v < sizeOf members := by
  induction members with
  | nil => simp [lookup] at h
  | cons m rest ih =>
    obtain ⟨k, w⟩ := m
    simp only [lookup] at h
    split at h
    · cases h; simp; omega
    · have := ih h; simp; omega

/-- The text of a string. -/
def string? : Json → Option String
  | .string s => some s
  | _ => none

end Json

end SpotForecast
