import Mathlib.Order.MinMax
import Mathlib.Data.Nat.Basic
import SpotForecast.Tree.Basic

/-!
# The features of a tree

A tree is visited with a list of pending nodes.  `foldPending_eq` says that such a visit meets
every node once, in the order of `visits`, so what it computes can be found by recursion on the
tree.  For the features this gives `requiredFeatures_eq`.

* `exists_evaluate`: on a vector with as many features as a tree requires, every feature that the
  tree asks for is there, whatever the values are, and the tree has an answer.
* `IsLeaf` names the answers that a tree can give, and `evaluate_isLeaf` says that it gives one
  of them.
-/

namespace SpotForecast.Tree

/-- The nodes of a tree in the order in which they are visited: a node, the `fail` side and the
`pass` side. -/
def visits : Tree → List Tree
  | leaf value => [leaf value]
  | split feature threshold pass fail =>
    split feature threshold pass fail :: (fail.visits ++ pass.visits)

/-- The least number above every index of a feature that the tree asks for. -/
def featureBound : Tree → Nat
  | leaf _ => 0
  | split feature _ pass fail => max (feature + 1) (max pass.featureBound fail.featureBound)

/-- A value stands at a leaf of a tree. -/
def IsLeaf (x : Float) : Tree → Prop
  | leaf value => value = x
  | split _ _ pass fail => pass.IsLeaf x ∨ fail.IsLeaf x

/-- **Visits.**  Pending trees are visited one after the other, each of their nodes once. -/
theorem foldPending_eq {α : Type} (f : α → Tree → α) (acc : α) (pending : List Tree) :
    foldPending f acc pending = (pending.flatMap visits).foldl f acc := by
  induction acc, pending using foldPending.induct f with
  | case1 acc => simp [foldPending]
  | case2 acc value rest ih => simp [foldPending, ih, visits]
  | case3 acc feature threshold pass fail rest ih => simp [foldPending, ih, visits]

/-- The visit of one tree. -/
theorem fold_eq {α : Type} (f : α → Tree → α) (acc : α) (t : Tree) :
    t.fold f acc = t.visits.foldl f acc := by
  rw [fold, foldPending_eq, List.flatMap_singleton]

/-- A visit raises what is required to what the tree needs. -/
theorem foldl_requiredBy (t : Tree) (least : Nat) :
    t.visits.foldl requiredBy least = max least t.featureBound := by
  induction t generalizing least with
  | leaf value => simp [visits, requiredBy, featureBound]
  | split feature threshold pass fail ihPass ihFail =>
      rw [visits, List.foldl_cons, List.foldl_append, ihFail, ihPass, requiredBy, featureBound]
      omega

/-- The required number of features is the least number above every index that is asked for. -/
theorem requiredFeatures_eq (t : Tree) : t.requiredFeatures = t.featureBound := by
  rw [requiredFeatures, fold_eq, foldl_requiredBy, Nat.zero_max]

/-- A tree has an answer to every vector that is long enough. -/
theorem exists_evaluate_of_featureBound {t : Tree} {features : List Float}
    (h : t.featureBound ≤ features.length) : ∃ x, t.evaluate features = some x := by
  induction t with
  | leaf value => exact ⟨value, rfl⟩
  | split feature threshold pass fail ihPass ihFail =>
      rw [featureBound] at h
      have hfeature : feature < features.length := by omega
      rw [evaluate, List.getElem?_eq_getElem hfeature]
      simp only
      split
      · exact ihPass (by omega)
      · exact ihFail (by omega)

/-- **No feature is missing.**  On a vector with the required number of features, of any values,
a tree has an answer. -/
theorem exists_evaluate {t : Tree} {features : List Float}
    (h : t.requiredFeatures ≤ features.length) : ∃ x, t.evaluate features = some x :=
  exists_evaluate_of_featureBound (requiredFeatures_eq t ▸ h)

/-- An answer of a tree stands at one of its leaves. -/
theorem evaluate_isLeaf {t : Tree} {features : List Float} {x : Float}
    (h : t.evaluate features = some x) : t.IsLeaf x := by
  induction t with
  | leaf value => exact Option.some.inj h
  | split feature threshold pass fail ihPass ihFail =>
      rw [evaluate] at h
      split at h
      · exact absurd h (by simp)
      · split at h
        · exact Or.inl (ihPass h)
        · exact Or.inr (ihFail h)

end SpotForecast.Tree
