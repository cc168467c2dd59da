import SpotForecast.Json.Value
import SpotForecast.Tree.Reading

/-!
# The cache of trees

Every tree is loaded once and then shared.  A cache has a slot for every identifier that someone
asked for; a slot is empty until its tree has been loaded.

* `Cache.find?`, `Cache.claim`, `Cache.fill` and `Cache.release` are the single steps that callers
  take on the shared cache, each of them at once.  A failed load leaves the slot empty, and
  `release` then takes the slot away, unless somebody else has filled it or replaced it.
* `Cache.get` is the whole of what one caller does if nobody comes between.
* `Loaded.serial` tells loads apart: two answers with one number are the same instance of a tree.
-/

namespace SpotForecast

/-- A tree that was loaded, with the number of the load. -/
structure Loaded where
  tree : DecisionTree
  /-- The number of the load, from zero. -/
  serial : Nat
deriving DecidableEq

/-- A cache of trees that callers share: the slots of identifiers, and what is in the slots. -/
structure Cache where
  /-- The slot of every identifier, the latest first. -/
  slots : List (String × Nat)
  contents : List (Nat × Loaded)
  /-- The number of slots that were ever made. -/
  made : Nat
  loaded : Nat
deriving DecidableEq

namespace Cache

/-- A cache without slots. -/
def empty : Cache := ⟨[], [], 0, 0⟩

/-- The slot of an identifier. -/
def find? (c : Cache) (identifier : String) : Option Nat :=
  c.slots.lookup identifier

/-- The content of a slot. -/
def content? (c : Cache) (slot : Nat) : Option Loaded :=
  c.contents.lookup slot

/-- The slot of an identifier, a new one if there is none. -/
def claim (c : Cache) (identifier : String) : Nat × Cache :=
  match c.find? identifier with
  | some slot => (slot, c)
  | none => (c.made, { c with slots := (identifier, c.made) :: c.slots, made := c.made + 1 })

/-- A tree put into a slot. -/
def fill (c : Cache) (slot : Nat) (tree : DecisionTree) : Loaded × Cache :=
  let l : Loaded := ⟨tree, c.loaded⟩
  (l, { c with contents := (slot, l) :: c.contents, loaded := c.loaded + 1 })

/-- Takes the slot of an identifier away if it is still this one and still empty. -/
def release (c : Cache) (identifier : String) (slot : Nat) : Cache :=
  if c.find? identifier = some slot ∧ c.content? slot = none then
    { c with slots := c.slots.filter (fun entry => entry.1 != identifier) }
  else c

/-- The tree of an identifier, if it has been loaded. -/
def tree? (c : Cache) (identifier : String) : Option Loaded :=
  (c.find? identifier).bind c.content?

/-- Whether the tree of an identifier has been loaded. -/
def contains (c : Cache) (identifier : String) : Bool :=
  (c.tree? identifier).isSome

/-- The number of identifiers whose trees have been loaded. -/
def size (c : Cache) : Nat :=
  (c.slots.filter (fun entry => (c.content? entry.2).isSome)).length

/-- Whether no tree has been loaded. -/
def isEmpty (c : Cache) : Bool :=
  c.size == 0

/-- A cache as it is shown to a developer. -/
def describe (c : Cache) : String :=
  "TreeCache \x7b loaded: " ++ toString c.size ++ " \x7d"

end Cache

/-- The tree that a source's answer gives, or the fault of the load. -/
def DecisionTree.ofAnswer (identifier : String) (answer : Except SourceFault Json) :
    Except ForecastFault DecisionTree :=
  match answer with
  | .error e => .error (.invalidTree (identifier ++ ": " ++ e.message))
  | .ok definition => DecisionTree.load identifier definition

namespace Cache

/-- The answer of a cache to a caller that nobody disturbs, and the cache after it.  The source is
asked only if the tree has not been loaded. -/
def get {m : Type → Type} [Monad m] (source : String → m (Except SourceFault Json))
    (c : Cache) (identifier : String) : m (Except ForecastFault Loaded × Cache) :=
  let (slot, c) := c.claim identifier
  match c.content? slot with
  | some l => pure (.ok l, c)
  | none => do
    match DecisionTree.ofAnswer identifier (← source identifier) with
    | .ok tree =>
      let (l, c) := c.fill slot tree
      pure (.ok l, c)
    | .error e => pure (.error e, c.release identifier slot)

end Cache

end SpotForecast
