import SpotForecast.Tree.Reading
import SpotForecast.Proofs.Tree.Features

/-!
# Which tree a definition denotes

`Denotes` is the grammar of definitions: one rule for leaves, one for splits and one for unions.
`ofJson_eq_ok_iff` says that reading a node finds exactly the tree that the grammar gives it.

The numbers that stand at the leaves of a definition are its `LeafNumber`s, found without building
a tree.  All of them are finite (`LeafNumber.isFinite`), and the answers of the tree are among them
(`evaluate_leafNumber`).
-/

namespace SpotForecast.Tree

/-- A JSON value denotes a tree. -/
inductive Denotes : Json → Tree → Prop where
  | leaf {n : Json.Number} {x : Float} (hvalue : n.toFloat? = some x) :
      Denotes (.number n) (.leaf x)
  | split {members : List (String × Json)} {field p f : Json} {feature : Nat} {threshold : Float}
      {pass fail : Tree} (hfield : Json.lookup "field" members = some field)
      (hoperator : checkOperator members = .ok ()) (hfeature : readField field = .ok feature)
      (hthreshold : readThreshold members = .ok threshold)
      (hp : Json.lookup "pass" members = some p) (hpass : Denotes p pass)
      (hf : Json.lookup "fail" members = some f) (hfail : Denotes f fail) :
      Denotes (.object members) (.split feature threshold pass fail)
  | union {key : String} {inner : Json} {t : Tree}
      (hfield : Json.lookup "field" [(key, inner)] = none) (hinner : Denotes inner t) :
      Denotes (.object [(key, inner)]) t

/-- A tree that is read is denoted. -/
theorem denotes_of_ofJson {v : Json} {t : Tree} (h : ofJson v = .ok t) : Denotes v t := by
  fun_induction ofJson v generalizing t with
  | case1 n x hvalue =>
      cases h
      exact .leaf hvalue
  | case10 members field hfield hoperator feature hfeature threshold hthreshold p hp _ pass hpass
      f hf _ fail hfail ihPass ihFail =>
      cases h
      exact .split hfield hoperator hfeature hthreshold hp (ihPass hpass) hf (ihFail hfail)
  | case11 key inner hfield ih => exact .union hfield (ih h)
  | _ => cases h

/-- A tree that is denoted is read. -/
theorem ofJson_of_denotes {v : Json} {t : Tree} (h : Denotes v t) : ofJson v = .ok t := by
  induction h with
  | leaf hvalue => rw [ofJson, hvalue]
  | split hfield hoperator hfeature hthreshold hp hpass hf hfail ihPass ihFail =>
      rw [ofJson.eq_def]
      simp only [hfield, hoperator, hfeature, hthreshold]
      split
      · rename_i hnone
        rw [hp] at hnone
        cases hnone
      · rename_i p' hp'
        cases hp.symm.trans hp'
        simp only [ihPass]
        split
        · rename_i hnone
          rw [hf] at hnone
          cases hnone
        · rename_i f' hf'
          cases hf.symm.trans hf'
          simp only [ihFail]
  | union hfield hinner ih =>
      rw [ofJson, hfield]
      exact ih

/-- **The grammar.**  A node is read exactly as the tree that it denotes. -/
theorem ofJson_eq_ok_iff {v : Json} {t : Tree} : ofJson v = .ok t ↔ Denotes v t :=
  ⟨denotes_of_ofJson, ofJson_of_denotes⟩

/-- A finite number stands at a leaf of a definition. -/
inductive LeafNumber : Json → Float → Prop where
  | number {n : Json.Number} {x : Float} (hvalue : n.toFloat? = some x) : LeafNumber (.number n) x
  | branch {members : List (String × Json)} {key : String} {v : Json} {x : Float}
      (hfield : (Json.lookup "field" members).isSome) (hkey : key = "pass" ∨ key = "fail")
      (hv : Json.lookup key members = some v) (hleaf : LeafNumber v x) :
      LeafNumber (.object members) x
  | union {key : String} {inner : Json} {x : Float}
      (hfield : Json.lookup "field" [(key, inner)] = none) (hleaf : LeafNumber inner x) :
      LeafNumber (.object [(key, inner)]) x

/-- A number with a double has a finite one. -/
theorem isFinite_of_toFloat? {n : Json.Number} {x : Float} (h : n.toFloat? = some x) :
    x.isFinite = true := by
  obtain ⟨y, hy⟩ : ∃ y, n.toFloat? = if y.isFinite = true then some y else none := ⟨_, rfl⟩
  rw [hy] at h
  split at h
  · rename_i hfinite
    cases h
    exact hfinite
  · cases h

/-- Numbers at leaves are finite. -/
theorem LeafNumber.isFinite {v : Json} {x : Float} (h : LeafNumber v x) : x.isFinite = true := by
  induction h with
  | number hvalue => exact isFinite_of_toFloat? hvalue
  | branch _ _ _ _ ih => exact ih
  | union _ _ ih => exact ih

/-- The leaves of a tree come from the leaves of its definition. -/
theorem Denotes.leafNumber {v : Json} {t : Tree} (h : Denotes v t) {x : Float} (hx : t.IsLeaf x) :
    LeafNumber v x := by
  induction h with
  | leaf hvalue =>
      cases hx
      exact .number hvalue
  | split hfield _ _ _ hp _ hf _ ihPass ihFail =>
      have hsome := Option.isSome_of_eq_some hfield
      rcases hx with hx | hx
      · exact .branch hsome (Or.inl rfl) hp (ihPass hx)
      · exact .branch hsome (Or.inr rfl) hf (ihFail hx)
  | union hfield _ ih => exact .union hfield (ih hx)

/-- **Answers.**  A tree that was loaded answers with a number at a leaf of its definition. -/
theorem evaluate_leafNumber {identifier : String} {definition : Json} {tree : DecisionTree}
    (hload : DecisionTree.load identifier definition = .ok tree) {features : List Float} {x : Float}
    (hx : tree.root.evaluate features = some x) : LeafNumber (start definition) x := by
  rw [DecisionTree.load] at hload
  split at hload
  · rename_i root hroot
    cases hload
    exact (ofJson_eq_ok_iff.mp hroot).leafNumber (evaluate_isLeaf hx)
  · cases hload

end SpotForecast.Tree
