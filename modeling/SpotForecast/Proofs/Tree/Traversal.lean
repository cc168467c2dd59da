import Mathlib.Algebra.GroupWithZero.Nat
import Mathlib.Order.Bounds.Basic
import Mathlib.Data.List.Nodup
import Mathlib.Data.Set.Operations
import SpotForecast.Proofs.Tree.Leaves

/-!
# Going through all nodes of a tree

The features, the leaves and the depth of a tree are found by loops over pending nodes: each round
takes the first of them and puts its sides there instead.  The pending nodes belong to different
parts of the tree, so such a loop is not a recursion on the tree.  `Rounds` is a run of a loop, and

* `rounds_foldPending`, `rounds_depthPending`: the two loops end, after one round for each node of
  the pending trees;
* `Rounds.unique`: no loop has a second run;
* `positions_nodup`, `mem_positions`: the nodes of these rounds are all nodes of the tree, none of
  them twice.  A node is told from an equal one by its `Position`.

What a run adds up is then found by recursion on the tree.  `pendingLoops_visit_once` says what the
results mean: the least number above the indices that the splits ask for, the number of the leaves,
and the length of the longest path to one of them.
-/

namespace SpotForecast.Tree

variable {α β : Type} {t : Tree} {n : Nat}

/-! ### Positions -/

/-- A position in a tree: the way from the root to a node. -/
inductive Position : Tree → Type where
  | here {t : Tree} : Position t
  | pass {feature : Nat} {threshold : Float} {pass fail : Tree} (rest : Position pass) :
      Position (.split feature threshold pass fail)
  | fail {feature : Nat} {threshold : Float} {pass fail : Tree} (rest : Position fail) :
      Position (.split feature threshold pass fail)

/-- The node at a position. -/
def Position.node : {t : Tree} → t.Position → Tree
  | t, .here => t
  | .split _ _ _ _, .pass rest => rest.node
  | .split _ _ _ _, .fail rest => rest.node

/-- The number of splits above a position. -/
def Position.depth : {t : Tree} → t.Position → Nat
  | _, .here => 0
  | .split _ _ _ _, .pass rest => rest.depth + 1
  | .split _ _ _ _, .fail rest => rest.depth + 1

/-- All positions of a tree: the root, those of the `fail` side and those of the `pass` side. -/
def positions : (t : Tree) → List t.Position
  | leaf _ => [.here]
  | split _ _ pass fail => .here :: (fail.positions.map .fail ++ pass.positions.map .pass)

theorem mem_positions (p : t.Position) : p ∈ t.positions := by
  induction p with
  | @here t => cases t <;> exact List.mem_cons_self
  | pass rest ih =>
      exact List.mem_cons_of_mem _ (List.mem_append_right _ (List.mem_map_of_mem ih))
  | fail rest ih =>
      exact List.mem_cons_of_mem _ (List.mem_append_left _ (List.mem_map_of_mem ih))

theorem positions_nodup (t : Tree) : t.positions.Nodup := by
  induction t with
  | leaf value => exact List.nodup_singleton _
  | split feature threshold pass fail ihPass ihFail =>
      have hfail : (fail.positions.map (@Position.fail feature threshold pass fail)).Nodup := by
        refine ihFail.map fun p q h => ?_
        cases h
        rfl
      have hpass : (pass.positions.map (@Position.pass feature threshold pass fail)).Nodup := by
        refine ihPass.map fun p q h => ?_
        cases h
        rfl
      rw [positions, List.nodup_cons, List.nodup_append']
      refine ⟨?_, hfail, hpass, ?_⟩
      · simp
      · intro p hp hp'
        obtain ⟨q, -, rfl⟩ := List.mem_map.mp hp
        obtain ⟨q', -, h⟩ := List.mem_map.mp hp'
        cases h

/-- The nodes at the positions of a tree, in the order of a visit. -/
theorem map_node_positions (t : Tree) : t.positions.map Position.node = t.visits := by
  induction t with
  | leaf value => rfl
  | split feature threshold pass fail ihPass ihFail =>
      rw [visits, ← ihPass, ← ihFail]
      simp only [positions, List.map_cons, List.map_append, List.map_map]
      rfl

/-! ### Loops -/

/-- A run of a loop over pending entries.  A round takes the first of them, computes with it and
puts the entries after it in front of the others; the loop ends when nothing is pending.  The list
has the entry of each round. -/
inductive Rounds (next : β → List β) (f : α → β → α) : α → List β → List β → α → Prop where
  | done (acc : α) : Rounds next f acc [] [] acc
  | round {acc out : α} {entry : β} {rest visited : List β}
      (h : Rounds next f (f acc entry) (next entry ++ rest) visited out) :
      Rounds next f acc (entry :: rest) (entry :: visited) out

section
variable {next : β → List β} {f : α → β → α} {acc out out' : α} {pending visited visited' : List β}

/-- A loop has one run at most. -/
theorem Rounds.unique (h : Rounds next f acc pending visited out)
    (h' : Rounds next f acc pending visited' out') : visited' = visited ∧ out' = out := by
  induction h generalizing visited' with
  | done acc =>
      cases h'
      exact ⟨rfl, rfl⟩
  | round _ ih =>
      cases h' with
      | round h' =>
          obtain ⟨hvisited, hout⟩ := ih h'
          exact ⟨congrArg _ hvisited, hout⟩

/-- What a run computes does not depend on what was pending when. -/
theorem Rounds.foldl_eq (h : Rounds next f acc pending visited out) :
    visited.foldl f acc = out := by
  induction h with
  | done acc => rfl
  | round _ ih => exact ih

theorem Rounds.iff (h : Rounds next f acc pending visited out) :
    Rounds next f acc pending visited' out' ↔ visited' = visited ∧ out' = out := by
  constructor
  · exact h.unique
  · intro heq
    obtain ⟨rfl, rfl⟩ := heq
    exact h

end

/-- The sides of a split, the one that is visited first in front. -/
def sides : Tree → List Tree
  | leaf _ => []
  | split _ _ pass fail => [fail, pass]

/-- The sides of a split at a depth, with theirs. -/
def sidesBelow (entry : Tree × Nat) : List (Tree × Nat) :=
  entry.1.sides.map fun side => (side, entry.2 + 1)

/-- The depth of the deepest leaf so far. -/
def deeper (deepest : Nat) : Tree × Nat → Nat
  | (leaf _, depth) => max deepest depth
  | (split _ _ _ _, _) => deepest

/-- The nodes of a tree at a depth, with theirs. -/
def visitsBelow (entry : Tree × Nat) : List (Tree × Nat) :=
  entry.1.positions.map fun p => (p.node, entry.2 + p.depth)

theorem visitsBelow_split (feature : Nat) (threshold : Float) (pass fail : Tree) (depth : Nat) :
    visitsBelow (split feature threshold pass fail, depth) =
      (split feature threshold pass fail, depth) ::
        (visitsBelow (fail, depth + 1) ++ visitsBelow (pass, depth + 1)) := by
  simp only [visitsBelow, positions, List.map_cons, List.map_append, List.map_map,
    Function.comp_def, Position.node, Position.depth, Nat.add_zero]
  simp only [Nat.add_assoc, Nat.add_comm 1]

/-- **The loop over nodes.**  It ends, and its rounds are the visits of the pending trees. -/
theorem rounds_foldPending (f : α → Tree → α) (acc : α) (pending : List Tree) :
    Rounds sides f acc pending (pending.flatMap visits) (foldPending f acc pending) := by
  induction acc, pending using foldPending.induct f with
  | case1 acc =>
      rw [foldPending]
      exact .done acc
  | case2 acc value rest ih =>
      rw [foldPending]
      exact .round ih
  | case3 acc feature threshold pass fail rest ih =>
      rw [foldPending]
      rw [List.flatMap_cons, List.flatMap_cons, ← List.append_assoc] at ih
      exact .round ih

/-- **The loop over nodes and depths.**  It ends, and its rounds are the visits of the pending trees
with the depths of their nodes. -/
theorem rounds_depthPending (deepest : Nat) (pending : List (Tree × Nat)) :
    Rounds sidesBelow deeper deepest pending (pending.flatMap visitsBelow)
      (depthPending deepest pending) := by
  induction deepest, pending using depthPending.induct with
  | case1 deepest =>
      rw [depthPending]
      exact .done deepest
  | case2 deepest value depth rest ih =>
      rw [depthPending]
      exact .round ih
  | case3 deepest feature threshold pass fail depth rest ih =>
      rw [depthPending, List.flatMap_cons, visitsBelow_split]
      rw [List.flatMap_cons, List.flatMap_cons, ← List.append_assoc] at ih
      exact .round ih

/-! ### What the loops compute -/

/-- The index of the feature that a node asks for. -/
def feature? : Tree → Option Nat
  | leaf _ => none
  | split feature _ _ _ => some feature

/-- Whether a node is a leaf. -/
def isLeaf : Tree → Bool
  | leaf _ => true
  | split _ _ _ _ => false

/-- The number of leaves, by recursion. -/
def leaves : Tree → Nat
  | leaf _ => 1
  | split _ _ pass fail => pass.leaves + fail.leaves

/-- The number of splits above the deepest leaf, by recursion. -/
def height : Tree → Nat
  | leaf _ => 0
  | split _ _ pass fail => max pass.height fail.height + 1

/-- The number of splits on a path to a leaf. -/
def LeafPath.length : {t : Tree} → t.LeafPath → Nat
  | .leaf _, .leaf _ => 0
  | .split _ _ _ _, .pass rest => rest.length + 1
  | .split _ _ _ _, .fail rest => rest.length + 1

theorem featureBound_le_iff :
    t.featureBound ≤ n ↔ ∀ (p : t.Position) (i : Nat), p.node.feature? = some i → i < n := by
  constructor
  · intro h p i hi
    induction p with
    | @here t =>
        cases t with
        | leaf value => cases hi
        | split feature threshold pass fail =>
            cases hi
            rw [featureBound] at h
            omega
    | pass rest ih =>
        rw [featureBound] at h
        exact ih (by omega) hi
    | fail rest ih =>
        rw [featureBound] at h
        exact ih (by omega) hi
  · intro h
    induction t with
    | leaf value => exact Nat.zero_le n
    | split feature threshold pass fail ihPass ihFail =>
        have hfeature := h .here feature rfl
        have hpass := ihPass fun p i hi => h (.pass p) i hi
        have hfail := ihFail fun p i hi => h (.fail p) i hi
        rw [featureBound]
        omega

theorem foldl_countLeaf (nodes : List Tree) (count : Nat) :
    nodes.foldl countLeaf count = count + nodes.countP isLeaf := by
  induction nodes generalizing count with
  | nil => rfl
  | cons node rest ih =>
      rw [List.foldl_cons, ih]
      cases node with
      | leaf value => rw [List.countP_cons_of_pos rfl, countLeaf]; omega
      | split => rw [List.countP_cons_of_neg Bool.false_ne_true, countLeaf]

theorem leafCount_eq_countP (t : Tree) : t.leafCount = t.visits.countP isLeaf := by
  rw [leafCount, fold_eq, foldl_countLeaf, Nat.zero_add]

theorem countP_isLeaf (t : Tree) : t.visits.countP isLeaf = t.leaves := by
  induction t with
  | leaf value => rfl
  | split feature threshold pass fail ihPass ihFail =>
      rw [visits, List.countP_cons_of_neg Bool.false_ne_true, List.countP_append, ihPass, ihFail,
        leaves, Nat.add_comm]

/-- A binary tree has one leaf more than it has splits. -/
theorem leaves_eq_succ (t : Tree) : t.leaves = t.visits.countP (!isLeaf ·) + 1 := by
  induction t with
  | leaf value => rfl
  | split feature threshold pass fail ihPass ihFail =>
      rw [visits, List.countP_cons_of_pos rfl, List.countP_append, leaves, ihPass, ihFail]
      omega

theorem foldl_deeper (t : Tree) (deepest depth : Nat) :
    (visitsBelow (t, depth)).foldl deeper deepest = max deepest (depth + t.height) := by
  induction t generalizing deepest depth with
  | leaf value => rfl
  | split feature threshold pass fail ihPass ihFail =>
      rw [visitsBelow_split, List.foldl_cons, List.foldl_append, ihFail, ihPass, deeper, height]
      omega

theorem depth_eq_height (t : Tree) : t.depth = t.height := by
  rw [depth, ← (rounds_depthPending 0 [(t, 0)]).foldl_eq, List.flatMap_singleton, foldl_deeper]
  omega

theorem LeafPath.length_le_height (path : t.LeafPath) : path.length ≤ t.height := by
  induction path with
  | leaf value => exact Nat.le_refl 0
  | pass rest ih =>
      rw [length, height]
      omega
  | fail rest ih =>
      rw [length, height]
      omega

theorem exists_length_eq_height (t : Tree) : ∃ path : t.LeafPath, path.length = t.height := by
  induction t with
  | leaf value => exact ⟨.leaf value, rfl⟩
  | split feature threshold pass fail ihPass ihFail =>
      rcases Nat.le_total fail.height pass.height with h | h
      · obtain ⟨path, hpath⟩ := ihPass
        exact ⟨.pass path, by rw [LeafPath.length, hpath, height, Nat.max_eq_left h]⟩
      · obtain ⟨path, hpath⟩ := ihFail
        exact ⟨.fail path, by rw [LeafPath.length, hpath, height, Nat.max_eq_right h]⟩

theorem leaves_le_two_pow_height (t : Tree) : t.leaves ≤ 2 ^ t.height := by
  induction t with
  | leaf value => exact Nat.le_refl 1
  | split feature threshold pass fail ihPass ihFail =>
      have hpass : 2 ^ pass.height ≤ 2 ^ max pass.height fail.height :=
        Nat.pow_le_pow_right (by decide) (Nat.le_max_left _ _)
      have hfail : 2 ^ fail.height ≤ 2 ^ max pass.height fail.height :=
        Nat.pow_le_pow_right (by decide) (Nat.le_max_right _ _)
      rw [leaves, height, Nat.pow_succ]
      omega

/-- What the loops over pending nodes come to. -/
structure VisitsOnce (t : Tree) : Prop where
  /-- The loop over nodes has one run: it ends, after one round for each position. -/
  fold_rounds : ∀ {α : Type} (f : α → Tree → α) (acc out : α) (visited : List Tree),
    Rounds sides f acc [t] visited out ↔
      visited = t.positions.map Position.node ∧ out = t.fold f acc
  depth_rounds : ∀ (out : Nat) (visited : List (Tree × Nat)),
    Rounds sidesBelow deeper 0 [(t, 0)] visited out ↔
      visited = t.positions.map (fun p => (p.node, p.depth)) ∧ out = t.depth
  nodup : t.positions.Nodup
  complete : ∀ p : t.Position, p ∈ t.positions
  recursions : t.requiredFeatures = t.featureBound ∧ t.leafCount = t.leaves ∧ t.depth = t.height
  /-- The number of required features is the least one above all indices that are asked for. -/
  requiredFeatures_isLeast :
    IsLeast {n | ∀ (p : t.Position) (i : Nat), p.node.feature? = some i → i < n} t.requiredFeatures
  /-- It has 64 bits if no index is the greatest of these numbers. -/
  requiredFeatures_lt :
    (∀ (p : t.Position) (i : Nat), p.node.feature? = some i → i < 2 ^ 64 - 1) →
      t.requiredFeatures < 2 ^ 64
  leafCount_eq : t.leafCount = t.positions.countP (fun p => p.node.isLeaf)
  leafCount_eq_succ : t.leafCount = t.positions.countP (fun p => !p.node.isLeaf) + 1
  depth_isGreatest : IsGreatest (Set.range (LeafPath.length (t := t))) t.depth
  leafCount_le : t.leafCount ≤ 2 ^ t.depth

/-- **Loops over pending nodes.**  They end, meet every node of a tree once, and find what
recursions on the tree find. -/
theorem pendingLoops_visit_once (t : Tree) : t.VisitsOnce where
  fold_rounds := by
    intro α f acc out visited
    have hrounds := rounds_foldPending f acc [t]
    rw [List.flatMap_singleton, ← map_node_positions] at hrounds
    exact hrounds.iff
  depth_rounds := by
    intro out visited
    have hrounds := rounds_depthPending 0 [(t, 0)]
    rw [List.flatMap_singleton, visitsBelow] at hrounds
    simp only [Nat.zero_add] at hrounds
    exact hrounds.iff
  nodup := t.positions_nodup
  complete := mem_positions
  recursions :=
    ⟨requiredFeatures_eq t, (leafCount_eq_countP t).trans (countP_isLeaf t), depth_eq_height t⟩
  requiredFeatures_isLeast := by
    rw [requiredFeatures_eq]
    exact ⟨featureBound_le_iff.mp (Nat.le_refl _), fun n hn => featureBound_le_iff.mpr hn⟩
  requiredFeatures_lt := by
    intro h
    have hbound := featureBound_le_iff.mpr h
    rw [requiredFeatures_eq]
    omega
  leafCount_eq := by
    rw [leafCount_eq_countP, ← map_node_positions, List.countP_map]
    rfl
  leafCount_eq_succ := by
    rw [leafCount_eq_countP, countP_isLeaf, leaves_eq_succ, ← map_node_positions, List.countP_map]
    rfl
  depth_isGreatest := by
    rw [depth_eq_height]
    refine ⟨exists_length_eq_height t, ?_⟩
    intro n hn
    obtain ⟨path, rfl⟩ := hn
    exact path.length_le_height
  leafCount_le := by
    rw [leafCount_eq_countP, countP_isLeaf, depth_eq_height]
    exact leaves_le_two_pow_height t

end SpotForecast.Tree
