import Std.Data.HashSet.Lemmas
import SpotForecast.Text.Blank
import SpotForecast.Text.Pieces

/-!
# The registry of categories

The registry lists the categories that can be forecast, in order and with repetitions.
`Registry.ofText` reads it from a text whose entries are separated by line breaks of any kind;
entries are not trimmed, and empty ones do not count.  A category is looked up in the set of what is
listed (`Registry.index`).
-/

namespace SpotForecast

/-- The categories that can be forecast. -/
structure Registry where
  categories : List String
deriving DecidableEq, Repr

namespace Registry

/-- The registry that a text lists. -/
def ofText (text : String) : Registry :=
  ⟨((Text.pieces Text.isLineBreak text.toList).filter (fun entry => !entry.isEmpty)).map
    String.ofList⟩

/-- The listed categories as a set. -/
def index (r : Registry) : Std.HashSet String :=
  Std.HashSet.ofList r.categories

/-- Whether a category is listed. -/
def contains (r : Registry) (category : String) : Bool :=
  r.index.contains category

/-- The set has just what is listed. -/
theorem contains_iff {r : Registry} {category : String} :
    r.contains category = true ↔ category ∈ r.categories := by
  rw [contains, index, Std.HashSet.contains_ofList, List.contains_iff_mem]

/-- The number of entries. -/
def size (r : Registry) : Nat :=
  r.categories.length

/-- Whether nothing is listed. -/
def isEmpty (r : Registry) : Bool :=
  r.categories.isEmpty

end Registry

end SpotForecast
