import Mathlib.Logic.ExistsUnique
import SpotForecast.Proofs.Tree.Features

/-!
# The leaf that features lead to

A leaf is told from the others by the path from the root to it, so two leaves with one value are
still two.  Each edge of a path has a condition: a `pass` edge wants the feature of its split to be
at most the threshold, a `fail` edge wants it not to be.  The second is not the same as the feature
being greater, because a feature that is no number is neither (`failsAt_of_isNaN`).

* `evaluate_eq_some_iff`: a tree answers with the value of a leaf whose conditions are satisfied,
  and with nothing else.
* `LeafPath.Holds.unique`: the conditions of two leaves are never satisfied together.
* `evaluate_congr`: only the features below `featureBound` matter.
* `leadsTo_of_requiredFeatures`: so a vector that is long enough leads to one leaf, whatever its
  entries are.
-/

namespace SpotForecast

/-- What is no number is at most no value. -/
theorem not_le_of_isNaN {x : Float} (h : x.isNaN = true) (threshold : Float) : ¬x ≤ threshold := by
  have hx : x.toModel.unpack.isNaN = true := h
  have hle : x.toModel.unpack.le threshold.toModel.unpack = false := by
    cases hunpack : x.toModel.unpack with
    | notANumber => rfl
    | infinity s => rw [hunpack] at hx; cases hx
    | zero s => rw [hunpack] at hx; cases hx
    | finite s m e hm => rw [hunpack] at hx; cases hx
  intro hcontra
  have htrue : x.toModel.unpack.le threshold.toModel.unpack = true := of_decide_eq_true hcontra
  rw [hle] at htrue
  cases htrue

namespace Tree

/-- The condition of a `pass` edge. -/
def PassesAt (features : List Float) (feature : Nat) (threshold : Float) : Prop :=
  ∃ x, features[feature]? = some x ∧ x ≤ threshold

/-- The condition of a `fail` edge. -/
def FailsAt (features : List Float) (feature : Nat) (threshold : Float) : Prop :=
  ∃ x, features[feature]? = some x ∧ ¬x ≤ threshold

/-- A path from the root to a leaf. -/
inductive LeafPath : Tree → Type where
  | leaf (value : Float) : LeafPath (.leaf value)
  | pass {feature : Nat} {threshold : Float} {pass fail : Tree} (rest : LeafPath pass) :
      LeafPath (.split feature threshold pass fail)
  | fail {feature : Nat} {threshold : Float} {pass fail : Tree} (rest : LeafPath fail) :
      LeafPath (.split feature threshold pass fail)

/-- The value of the leaf at the end of a path. -/
def LeafPath.value : {t : Tree} → t.LeafPath → Float
  | .leaf _, .leaf value => value
  | .split _ _ _ _, .pass rest => rest.value
  | .split _ _ _ _, .fail rest => rest.value

/-- All conditions on a path are satisfied. -/
def LeafPath.Holds (features : List Float) : {t : Tree} → t.LeafPath → Prop
  | .leaf _, .leaf _ => True
  | .split feature threshold _ _, .pass rest =>
      PassesAt features feature threshold ∧ rest.Holds features
  | .split feature threshold _ _, .fail rest =>
      FailsAt features feature threshold ∧ rest.Holds features

variable {features features' : List Float} {feature : Nat} {threshold x : Float} {t : Tree}

theorem failsAt_of_isNaN (hx : features[feature]? = some x) (h : x.isNaN = true) :
    FailsAt features feature threshold :=
  ⟨x, hx, not_le_of_isNaN h threshold⟩

theorem not_failsAt_of_passesAt (h : PassesAt features feature threshold) :
    ¬FailsAt features feature threshold := by
  intro hfails
  obtain ⟨x, hx, hle⟩ := h
  obtain ⟨y, hy, hnle⟩ := hfails
  rw [hx, Option.some.injEq] at hy
  subst hy
  exact hnle hle

/-- **At most one leaf.**  Where two paths part, the conditions of their edges exclude each
other. -/
theorem LeafPath.Holds.unique {path path' : t.LeafPath} (h : path.Holds features)
    (h' : path'.Holds features) : path' = path := by
  induction path with
  | leaf value =>
      cases path'
      rfl
  | pass rest ih =>
      cases path' with
      | pass rest' => rw [ih h.2 h'.2]
      | fail rest' => exact absurd h'.1 (not_failsAt_of_passesAt h.1)
  | fail rest ih =>
      cases path' with
      | pass rest' => exact absurd h.1 (not_failsAt_of_passesAt h'.1)
      | fail rest' => rw [ih h.2 h'.2]

/-- The evaluation follows the path whose conditions are satisfied. -/
theorem LeafPath.Holds.evaluate_eq {path : t.LeafPath} (h : path.Holds features) :
    t.evaluate features = some path.value := by
  induction path with
  | leaf value => rfl
  | pass rest ih =>
      obtain ⟨⟨x, hx, hle⟩, hrest⟩ := h
      rw [evaluate, hx]
      simp only [if_pos hle]
      exact ih hrest
  | fail rest ih =>
      obtain ⟨⟨x, hx, hnle⟩, hrest⟩ := h
      rw [evaluate, hx]
      simp only [if_neg hnle]
      exact ih hrest

/-- **Answers come from leaves.**  A tree has an answer exactly if the conditions of a leaf with
this value are satisfied. -/
theorem evaluate_eq_some_iff :
    t.evaluate features = some x ↔ ∃ path : t.LeafPath, path.Holds features ∧ path.value = x := by
  constructor
  · intro h
    induction t with
    | leaf value => exact ⟨.leaf value, trivial, Option.some.inj h⟩
    | split feature threshold pass fail ihPass ihFail =>
        rw [evaluate] at h
        cases hx : features[feature]? with
        | none =>
            rw [hx] at h
            cases h
        | some y =>
            rw [hx] at h
            simp only at h
            by_cases hle : y ≤ threshold
            · rw [if_pos hle] at h
              obtain ⟨path, hpath, hvalue⟩ := ihPass h
              exact ⟨.pass path, ⟨⟨y, hx, hle⟩, hpath⟩, hvalue⟩
            · rw [if_neg hle] at h
              obtain ⟨path, hpath, hvalue⟩ := ihFail h
              exact ⟨.fail path, ⟨⟨y, hx, hle⟩, hpath⟩, hvalue⟩
  · intro h
    obtain ⟨path, hpath, rfl⟩ := h
    exact hpath.evaluate_eq

/-- Vectors with the same features below the bound of a tree get the same answer. -/
theorem evaluate_congr (h : ∀ i < t.featureBound, features'[i]? = features[i]?) :
    t.evaluate features' = t.evaluate features := by
  induction t with
  | leaf value => rfl
  | split feature threshold pass fail ihPass ihFail =>
      rw [featureBound] at h
      have hfeature := h feature (by omega)
      have hpass := ihPass (fun i hi => h i (by omega))
      have hfail := ihFail (fun i hi => h i (by omega))
      rw [evaluate, evaluate, hfeature, hpass, hfail]

/-- What a tree makes of a vector of features. -/
structure LeadsTo (t : Tree) (features : List Float) : Prop where
  existsUnique_path : ∃! path : t.LeafPath, path.Holds features
  evaluate_eq : ∀ path : t.LeafPath, path.Holds features → t.evaluate features = some path.value
  /-- A feature that is no number satisfies the condition of every `fail` edge. -/
  failsAt_of_isNaN : ∀ feature threshold x, features[feature]? = some x → x.isNaN = true →
    FailsAt features feature threshold
  evaluate_congr : ∀ features' : List Float,
    features'.take t.requiredFeatures = features.take t.requiredFeatures →
    t.evaluate features' = t.evaluate features

/-- **One leaf.**  Features of any values lead to exactly one leaf, if there are as many as the
tree requires. -/
theorem leadsTo_of_requiredFeatures (h : t.requiredFeatures ≤ features.length) :
    t.LeadsTo features where
  existsUnique_path := by
    obtain ⟨x, hx⟩ := exists_evaluate h
    obtain ⟨path, hpath, -⟩ := evaluate_eq_some_iff.mp hx
    exact ⟨path, hpath, fun path' hpath' => hpath.unique hpath'⟩
  evaluate_eq path hpath := hpath.evaluate_eq
  failsAt_of_isNaN feature threshold x hx hnan := Tree.failsAt_of_isNaN hx hnan
  evaluate_congr features' hsame := by
    apply Tree.evaluate_congr
    intro i hi
    rw [← requiredFeatures_eq] at hi
    have hplace := congrArg (fun l => l[i]?) hsame
    simpa only [List.getElem?_take_of_lt hi] using hplace

/-- A tree that asks for its features in no order, and for one of them twice. -/
def branching : Tree :=
  .split 1 1.0 (.split 0 2.0 (.leaf 0.5) (.leaf 2.0)) (.split 1 3.0 (.leaf 0.5) (.leaf 0.1))

/-- An infinite feature and one that is no number lead to one leaf. -/
theorem leadsTo_branching :
    branching.requiredFeatures ≤ [1.0 / 0.0, 0.0 / 0.0].length ∧
      branching.LeadsTo [1.0 / 0.0, 0.0 / 0.0] := by
  have hrequired : branching.requiredFeatures ≤ [1.0 / 0.0, 0.0 / 0.0].length := by
    rw [requiredFeatures_eq]
    decide
  exact ⟨hrequired, leadsTo_of_requiredFeatures hrequired⟩

end Tree

end SpotForecast
