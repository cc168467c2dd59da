import SpotForecast.Tree.Cache

/-!
# Many callers of one cache

Callers ask a shared cache for trees at the same time.  Each of them goes through the phases of
`Phase`, one step at a time, and the steps of different callers may come in any order: a schedule
names the caller of every step and says how a load ends that is finished by it.

* Only one caller at a time loads into a slot; the others wait for it.
* A load that fails lets the next waiting caller try, and the caller that failed then takes the
  slot away if it is still empty.
* `Flight.rounds` is a schedule in which all callers take turns.
-/

namespace SpotForecast

/-- How far a caller has come. -/
inductive Phase where
  | arriving
  | absent
  /-- It has a slot and waits until it can see the content or load it. -/
  | waiting (slot : Nat)
  | loading (slot : Nat)
  | failing (slot : Nat) (e : ForecastFault)
  | answered (result : Except ForecastFault Loaded)

/-- A caller: what it asks for and how far it has come. -/
structure Caller where
  identifier : String
  phase : Phase

/-- A shared cache, its callers, and the number of loads that they have begun. -/
structure Flight where
  cache : Cache
  callers : List Caller
  loads : Nat

/-- How a load ends. -/
abbrev LoadResult := Except ForecastFault DecisionTree

namespace Flight

/-- Whether some caller loads into a slot. -/
def busy (f : Flight) (slot : Nat) : Bool :=
  f.callers.any (fun c => match c.phase with
    | .loading s => s == slot
    | _ => false)

/-- The step of one caller: its next phase and the cache after it. -/
def advance (f : Flight) (result : LoadResult) (c : Caller) : Phase × Cache :=
  match c.phase with
  | .arriving =>
    match f.cache.find? c.identifier with
    | some slot => (.waiting slot, f.cache)
    | none => (.absent, f.cache)
  | .absent =>
    let (slot, cache) := f.cache.claim c.identifier
    (.waiting slot, cache)
  | .waiting slot =>
    match f.cache.content? slot with
    | some l => (.answered (.ok l), f.cache)
    | none => (if f.busy slot then .waiting slot else .loading slot, f.cache)
  | .loading slot =>
    match result with
    | .ok tree =>
      let (l, cache) := f.cache.fill slot tree
      (.answered (.ok l), cache)
    | .error e => (.failing slot e, f.cache)
  | .failing slot e => (.answered (.error e), f.cache.release c.identifier slot)
  | .answered r => (.answered r, f.cache)

/-- The number of loads that a step begins. -/
def begun : Phase → Phase → Nat
  | .waiting _, .loading _ => 1
  | _, _ => 0

/-- The step of the caller with a number; a load that it finishes ends with `result`. -/
def step (f : Flight) (i : Nat) (result : LoadResult) : Flight :=
  match f.callers[i]? with
  | none => f
  | some c =>
    let (phase, cache) := f.advance result c
    ⟨cache, f.callers.set i { c with phase := phase }, f.loads + begun c.phase phase⟩

/-- The steps of a schedule. -/
def run (f : Flight) : List (Nat × LoadResult) → Flight
  | [] => f
  | (i, result) :: rest => (f.step i result).run rest

/-- Some callers that all want one tree. -/
def start (cache : Cache) (identifier : String) (count : Nat) : Flight :=
  ⟨cache, List.replicate count ⟨identifier, .arriving⟩, 0⟩

/-- A schedule in which `count` callers take turns, `rounds` times. -/
def rounds (count rounds : Nat) (result : LoadResult) : List (Nat × LoadResult) :=
  (List.range rounds).flatMap (fun _ => (List.range count).map (fun i => (i, result)))

/-- A number of rounds after which `count` callers with one identifier all have their answers: each
of them loads in vain at worst, which takes two steps more. -/
def enough (count : Nat) : Nat :=
  4 + 2 * count

/-- The answers that there are. -/
def answers (f : Flight) : List (Except ForecastFault Loaded) :=
  f.callers.filterMap (fun c => match c.phase with
    | .answered r => some r
    | _ => none)

end Flight

end SpotForecast
