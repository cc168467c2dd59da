import SpotForecast.Fault

/-!
# Decision trees

A tree asks for the value of one feature at every split and has an answer at every leaf.

* `Tree.evaluate` takes the `pass` side where the feature is at most the threshold, and the `fail`
  side otherwise; a feature that is not a number fails.  Only a split that is reached reads its
  feature, so only there can a feature be missing.
* `Tree.fold` visits all nodes with a list of pending ones: a node is followed by its whole `fail`
  side and then by its `pass` side.  `requiredFeatures`, `leafCount` and `depth` are computed by
  such visits.
-/

namespace SpotForecast

/-- A tree of comparisons. -/
inductive Tree where
  | leaf (value : Float)
  | split (feature : Nat) (threshold : Float) (pass fail : Tree)
deriving DecidableEq

namespace Tree

/-- The value of the leaf that a vector of features leads to; nothing if a feature that is asked
for is missing. -/
def evaluate (features : List Float) : Tree → Option Float
  | leaf value => some value
  | split feature threshold pass fail =>
    match features[feature]? with
    | none => none
    | some x => if x ≤ threshold then pass.evaluate features else fail.evaluate features

/-- The number of nodes. -/
def size : Tree → Nat
  | leaf _ => 1
  | split _ _ pass fail => 1 + pass.size + fail.size

/-- The number of nodes of pending trees. -/
def pendingSize : List Tree → Nat
  | [] => 0
  | t :: rest => t.size + pendingSize rest

/-- All nodes of pending trees, visited one after the other. -/
def foldPending {α : Type} (f : α → Tree → α) (acc : α) : List Tree → α
  | [] => acc
  | leaf value :: rest => foldPending f (f acc (leaf value)) rest
  | split feature threshold pass fail :: rest =>
    foldPending f (f acc (split feature threshold pass fail)) (fail :: pass :: rest)
termination_by pending => pendingSize pending
decreasing_by
  · simp only [pendingSize, size]; omega
  · simp only [pendingSize, size]; omega

/-- All nodes of a tree, visited one after the other. -/
def fold {α : Type} (f : α → Tree → α) (acc : α) (t : Tree) : α :=
  foldPending f acc [t]

/-- The least length of a vector that has every feature a node asks for, given the least length
for the nodes before it. -/
def requiredBy (least : Nat) : Tree → Nat
  | leaf _ => least
  | split feature _ _ _ => max least (feature + 1)

/-- The least length of a vector that has every feature the tree asks for. -/
def requiredFeatures (t : Tree) : Nat :=
  t.fold requiredBy 0

/-- The number of leaves among the nodes so far and one more. -/
def countLeaf (count : Nat) : Tree → Nat
  | leaf _ => count + 1
  | split _ _ _ _ => count

/-- The number of leaves. -/
def leafCount (t : Tree) : Nat :=
  t.fold countLeaf 0

/-- The number of nodes of pending trees that have their depths with them. -/
def pendingDepthSize : List (Tree × Nat) → Nat
  | [] => 0
  | (t, _) :: rest => t.size + pendingDepthSize rest

/-- The depth of the deepest leaf of pending trees, or `deepest` if that is more. -/
def depthPending (deepest : Nat) : List (Tree × Nat) → Nat
  | [] => deepest
  | (leaf _, depth) :: rest => depthPending (max deepest depth) rest
  | (split _ _ pass fail, depth) :: rest =>
    depthPending deepest ((fail, depth + 1) :: (pass, depth + 1) :: rest)
termination_by pending => pendingDepthSize pending
decreasing_by
  · simp only [pendingDepthSize, size]; omega
  · simp only [pendingDepthSize, size]; omega

/-- The number of splits above the deepest leaf. -/
def depth (t : Tree) : Nat :=
  depthPending 0 [(t, 0)]

end Tree

/-- A tree with the name under which it was loaded. -/
structure DecisionTree where
  identifier : String
  root : Tree
deriving DecidableEq

end SpotForecast
