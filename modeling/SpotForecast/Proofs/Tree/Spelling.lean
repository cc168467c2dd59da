import SpotForecast.Proofs.Decimal.Finite
import SpotForecast.Proofs.Tree.Grammar

/-!
# What a definition says

`Spells` is the grammar of definitions in terms of what is written in them, without the checks that
the reader makes: which operator a split has, how a feature is named or numbered, how a threshold
may be wrapped.  `denotes_iff_spells` says that the reader's checks come to the same.  Every number
that a document can hold spells a leaf (`exists_spells_of_fits`).

`StandsAt` says where in a document the tree stands.
-/

namespace SpotForecast

namespace Json

/-- A value stands where a path of keys leads. -/
inductive At : List String → Json → Json → Prop where
  | here {v : Json} : At [] v v
  | inside {key : String} {rest : List String} {members : List (String × Json)} {v w : Json}
      (hv : lookup key members = some v) (hw : At rest v w) : At (key :: rest) (.object members) w

/-- Following keys finds what stands at the end of their path. -/
theorem path?_eq_some_iff {keys : List String} {v w : Json} :
    path? keys v = some w ↔ At keys v w := by
  constructor
  · intro h
    induction keys generalizing v with
    | nil =>
        cases h
        exact .here
    | cons key rest ih =>
        obtain ⟨inner, hinner, hrest⟩ := Option.bind_eq_some_iff.mp h
        cases v with
        | object members => exact .inside hinner (ih hrest)
        | _ => cases hinner
  · intro h
    induction h with
    | here => rfl
    | inside hv _ ih => rw [path?, get?, hv, Option.bind_some, ih]

end Json

namespace Tree

/-- The part of a definition that is read: what stands under `init` of `tree` of `cells`, or all of
it if nothing stands there. -/
def StandsAt (definition node : Json) : Prop :=
  Json.At ["cells", "tree", "init"] definition node ∨
    (∀ v, ¬Json.At ["cells", "tree", "init"] definition v) ∧ node = definition

/-- Exactly one part of a definition is read. -/
theorem standsAt_iff {definition node : Json} :
    StandsAt definition node ↔ node = start definition := by
  have hpath : documentPath = ["cells", "tree", "init"] := rfl
  rw [StandsAt, start, hpath]
  simp only [← Json.path?_eq_some_iff]
  cases hfound : Json.path? ["cells", "tree", "init"] definition with
  | none => simp
  | some v => simp [eq_comm]

/-! ### What is spelled -/

/-- A `field` names a feature by the digits after `lag_`, or gives its index. -/
inductive SpellsFeature : Json → Nat → Prop where
  | name {digits : List Char} (hne : digits ≠ []) (hdigits : ∀ c ∈ digits, '0' ≤ c ∧ c ≤ '9')
      (hfits : Decimal.valueOf digits < 2 ^ 64) :
      SpellsFeature (.string (String.ofList ("lag_".toList ++ digits))) (Decimal.valueOf digits)
  | index {i : Nat} (hfits : i < 2 ^ 64) : SpellsFeature (.number (.integer i)) i

/-- A threshold is a number, which may be the only member `double` of an object. -/
inductive SpellsThreshold : Json → Float → Prop where
  | bare {n : Json.Number} {x : Float} (hvalue : n.toFloat? = some x) :
      SpellsThreshold (.number n) x
  | wrapped {n : Json.Number} {x : Float} (hvalue : n.toFloat? = some x) :
      SpellsThreshold (.object [("double", .number n)]) x

/-- A JSON value spells a tree. -/
inductive Spells : Json → Tree → Prop where
  | leaf {n : Json.Number} {x : Float} (hvalue : n.toFloat? = some x) :
      Spells (.number n) (.leaf x)
  | split {members : List (String × Json)} {field value p f : Json} {feature : Nat}
      {threshold : Float} {pass fail : Tree} (hfield : Json.lookup "field" members = some field)
      (hoperator : Json.lookup "operator" members = some (.string "<="))
      (hfeature : SpellsFeature field feature)
      (hvalue : Json.lookup "value" members = some value)
      (hthreshold : SpellsThreshold value threshold)
      (hp : Json.lookup "pass" members = some p) (hpass : Spells p pass)
      (hf : Json.lookup "fail" members = some f) (hfail : Spells f fail) :
      Spells (.object members) (.split feature threshold pass fail)
  | union {key : String} {inner : Json} {t : Tree} (hkey : key ≠ "field")
      (hinner : Spells inner t) : Spells (.object [(key, inner)]) t

/-- A number that a document can hold is a leaf. -/
theorem exists_spells_of_fits {n : Json.Number} (h : n.Fits) :
    ∃ x, Spells (.number n) (.leaf x) := by
  obtain ⟨x, hvalue⟩ := Json.Number.toFloat?_of_fits h
  exact ⟨x, .leaf hvalue⟩

theorem lookup_singleton_eq_none_iff {key k : String} {v : Json} :
    Json.lookup key [(k, v)] = none ↔ k ≠ key := by
  by_cases h : k = key <;> simp [Json.lookup, h]

theorem checkOperator_eq_ok_iff {members : List (String × Json)} :
    checkOperator members = .ok () ↔ Json.lookup "operator" members = some (.string "<=") := by
  rw [checkOperator]
  split
  · rename_i op hop
    rw [hop]
    by_cases h : op = lessOrEqual
    · simp [h, lessOrEqual]
    · simp only [if_neg h, reduceCtorEq, Option.some.injEq, Json.string.injEq, false_iff]
      exact h
  · rename_i hop
    simp only [reduceCtorEq, false_iff]
    exact fun h => hop _ h

/-- Digits are read if there are any and their value has at most 64 bits. -/
theorem indexOfDigits?_eq_some_iff {digits : List Char} {i : Nat} :
    Lags.indexOfDigits? digits = some i ↔ digits ≠ [] ∧ (∀ c ∈ digits, '0' ≤ c ∧ c ≤ '9') ∧
      i < 2 ^ 64 ∧ i = Decimal.valueOf digits := by
  have hlimit : Lags.indexLimit = 2 ^ 64 := rfl
  have hnone : (digits.isEmpty || !digits.all Decimal.isDigit) = true ↔
      ¬(digits ≠ [] ∧ ∀ c ∈ digits, '0' ≤ c ∧ c ≤ '9') := by
    rw [not_and_or, not_not]
    simp [Decimal.isDigit]
  rw [Lags.indexOfDigits?, hlimit]
  split
  · rename_i hbad
    constructor
    · rintro ⟨⟩
    · rintro ⟨hne, hdigits, -⟩
      exact absurd ⟨hne, hdigits⟩ (hnone.mp hbad)
  · rename_i hgood
    rw [hnone, not_not] at hgood
    split
    · rename_i hfits
      constructor
      · rintro ⟨⟩
        exact ⟨hgood.1, hgood.2, hfits, rfl⟩
      · rintro ⟨-, -, -, rfl⟩
        rfl
    · rename_i hlarge
      constructor
      · rintro ⟨⟩
      · rintro ⟨-, -, hfits, rfl⟩
        exact absurd hfits hlarge

/-- The names that are read are `lag_` and digits. -/
theorem index?_eq_some_iff {text : String} {i : Nat} :
    Lags.index? text = some i ↔ ∃ digits, text = String.ofList ("lag_".toList ++ digits) ∧
      Lags.indexOfDigits? digits = some i := by
  rw [Lags.index?]
  constructor
  · intro h
    split at h
    · rename_i digits htext
      refine ⟨digits, ?_, h⟩
      rw [← String.ofList_toList (s := text), htext]
      rfl
    · cases h
  · rintro ⟨digits, rfl, h⟩
    rw [String.toList_ofList]
    exact h

theorem spellsFeature_string_iff {text : String} {i : Nat} :
    SpellsFeature (.string text) i ↔ Lags.index? text = some i := by
  constructor
  · intro h
    cases h with
    | name hne hdigits hfits =>
        exact index?_eq_some_iff.mpr
          ⟨_, rfl, indexOfDigits?_eq_some_iff.mpr ⟨hne, hdigits, hfits, rfl⟩⟩
  · intro h
    obtain ⟨digits, rfl, hdigits⟩ := index?_eq_some_iff.mp h
    obtain ⟨hne, hall, hfits, rfl⟩ := indexOfDigits?_eq_some_iff.mp hdigits
    exact .name hne hall hfits

theorem toIndex?_eq_some_iff {n : Json.Number} {i : Nat} :
    n.toIndex? = some i ↔ n = .integer i ∧ i < 2 ^ 64 := by
  have hlimit : Decimal.limit64 = 2 ^ 64 := rfl
  constructor
  · intro h
    cases n with
    | integer j =>
        rw [Json.Number.toIndex?] at h
        split at h
        · rename_i hj
          obtain ⟨k, rfl⟩ := Int.eq_ofNat_of_zero_le hj.1
          cases h
          exact ⟨rfl, by omega⟩
        · cases h
    | real x => cases h
  · rintro ⟨rfl, hfits⟩
    have hrange : 0 ≤ (i : Int) ∧ (i : Int) < Decimal.limit64 := by omega
    rw [Json.Number.toIndex?, if_pos hrange]
    rfl

theorem spellsFeature_number_iff {n : Json.Number} {i : Nat} :
    SpellsFeature (.number n) i ↔ n.toIndex? = some i := by
  rw [toIndex?_eq_some_iff]
  constructor
  · intro h
    cases h with
    | index hfits => exact ⟨rfl, hfits⟩
  · rintro ⟨rfl, hfits⟩
    exact .index hfits

theorem readField_eq_ok_iff {field : Json} {feature : Nat} :
    readField field = .ok feature ↔ SpellsFeature field feature := by
  cases field with
  | string text =>
      rw [spellsFeature_string_iff, readField]
      cases Lags.index? text <;> simp
  | number n =>
      rw [spellsFeature_number_iff, readField]
      cases n.toIndex? <;> simp
  | null | bool | array | object =>
      constructor
      · intro h
        cases h
      · intro h
        cases h

theorem threshold?_eq_some_iff {value : Json} {x : Float} :
    threshold? value = some x ↔ SpellsThreshold value x := by
  constructor
  · intro h
    rw [threshold?.eq_def] at h
    split at h
    · exact .bare h
    · exact .wrapped h
    · cases h
  · intro h
    cases h with
    | bare hvalue => exact hvalue
    | wrapped hvalue => exact hvalue

theorem readThreshold_eq_ok_iff {members : List (String × Json)} {x : Float} :
    readThreshold members = .ok x ↔
      ∃ value, Json.lookup "value" members = some value ∧ SpellsThreshold value x := by
  have hsome : (Json.lookup "value" members).bind threshold? = some x ↔
      ∃ value, Json.lookup "value" members = some value ∧ SpellsThreshold value x := by
    simp only [Option.bind_eq_some_iff, threshold?_eq_some_iff]
  rw [← hsome, readThreshold]
  split
  · rename_i y hy
    simp [hy]
  · rename_i hnone
    simp [hnone]

/-- **What the reader's checks come to.** -/
theorem denotes_iff_spells {v : Json} {t : Tree} : Denotes v t ↔ Spells v t := by
  constructor
  · intro h
    induction h with
    | leaf hvalue => exact .leaf hvalue
    | split hfield hoperator hfeature hthreshold hp _ hf _ ihPass ihFail =>
        obtain ⟨value, hvalue, hthreshold⟩ := readThreshold_eq_ok_iff.mp hthreshold
        exact .split hfield (checkOperator_eq_ok_iff.mp hoperator)
          (readField_eq_ok_iff.mp hfeature) hvalue hthreshold hp ihPass hf ihFail
    | union hfield _ ih => exact .union (lookup_singleton_eq_none_iff.mp hfield) ih
  · intro h
    induction h with
    | leaf hvalue => exact .leaf hvalue
    | split hfield hoperator hfeature hvalue hthreshold hp _ hf _ ihPass ihFail =>
        exact .split hfield (checkOperator_eq_ok_iff.mpr hoperator)
          (readField_eq_ok_iff.mpr hfeature)
          (readThreshold_eq_ok_iff.mpr ⟨_, hvalue, hthreshold⟩) hp ihPass hf ihFail
    | union hkey _ ih => exact .union (lookup_singleton_eq_none_iff.mpr hkey) ih

end Tree

end SpotForecast
