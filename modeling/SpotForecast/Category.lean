import SpotForecast.Fault
import SpotForecast.Json.Written
import SpotForecast.Text.Pieces

/-!
# Category keys

A category names one series of prices by the type of a resource, its description and its zone.

* `Category.canonical` joins the three parts with two underscores.
* `Category.parse?` cuts a text at every pair of underscores, from left to right, and takes it as
  a key if there are exactly three pieces; pieces may be empty.
* Keys are ordered by type, then description, then zone.
-/

namespace SpotForecast

/-- The key of a series of prices. -/
structure Category where
  resourceType : String
  description : String
  zone : String
deriving DecidableEq, Repr

namespace Category

/-- The mark between the parts of a written key. -/
def separator : List Char := ['_', '_']

/-- The pieces of a text between pairs of underscores, found from left to right. -/
def cut : List Char → List (List Char)
  | [] => [[]]
  | [c] => [[c]]
  | c :: d :: rest =>
    if c = '_' ∧ d = '_' then [] :: cut rest else Text.consFirst c (cut (d :: rest))

/-- The written form of a key, as characters. -/
def canonicalChars (c : Category) : List Char :=
  Text.joinPieces separator [c.resourceType.toList, c.description.toList, c.zone.toList]

/-- The written form of a key; it is also the name of the key's column in a grid. -/
def canonical (c : Category) : String :=
  String.ofList c.canonicalChars

/-- The key that a text denotes. -/
def parse? (text : String) : Option Category :=
  match cut text.toList with
  | [resourceType, description, zone] =>
    some ⟨String.ofList resourceType, String.ofList description, String.ofList zone⟩
  | _ => none

/-- The key that a text denotes, or the fault that names the text. -/
def parse (text : String) : Except SetupFault Category :=
  match parse? text with
  | some c => .ok c
  | none => .error (.invalidCategory text)

/-- A key comes before another one: by type, then description, then zone. -/
protected def lt (a b : Category) : Prop :=
  a.resourceType < b.resourceType ∨ (a.resourceType = b.resourceType ∧
    (a.description < b.description ∨ (a.description = b.description ∧ a.zone < b.zone)))

instance : LT Category := ⟨Category.lt⟩

instance (a b : Category) : Decidable (a < b) :=
  inferInstanceAs (Decidable (_ ∨ _))

/-- Keys in ascending order. -/
def sort (cs : List Category) : List Category :=
  cs.mergeSort (fun a b => !decide (b < a))

/-- A key as a JSON object. -/
def toJson (c : Category) : Json :=
  .object [("resource_type", .string c.resourceType), ("description", .string c.description),
    ("zone", .string c.zone)]

/-- The key that is written: an object with the three parts, or an array of them. -/
def ofWritten? (w : Json.Written) : Option Category :=
  match Json.Written.parts? ["resource_type", "description", "zone"] w with
  | some [resourceType, description, zone] => do
    pure ⟨← resourceType.text?, ← description.text?, ← zone.text?⟩
  | _ => none

end Category

end SpotForecast
