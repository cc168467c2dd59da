import Mathlib.Data.List.Lex
import SpotForecast.Proofs.Tree.Spelling

/-!
# Where a definition is wrong

What is wrong with a definition has a place in it.  A `Place` is a list of steps from the outermost
node: into the member of a union, into a side of a split, or to one of the three parts of a split
that are no nodes.  `DefectAt` finds all defects of a definition, each on its own and in no order.
Places are ordered as a definition is gone through in depth, and `FirstDefect` is the defect before
all others.

A split is read step by step.  `Clear members step` says that no step before the given one leads
to a defect; each check that succeeds clears the next step, and one that fails at a clear step
finds the first defect.  From this, by induction over definitions, `ofJson_eq_error_iff`: a fault
is that of the first defect.  `load_iff` puts grammar and defects together.
-/

namespace SpotForecast.Tree

/-- The two sides of a split. -/
inductive Side where
  | pass
  | fail
deriving DecidableEq

/-- The key of a side. -/
def Side.key : Side → String
  | pass => "pass"
  | fail => "fail"

/-- A step from a node to a part of it: to the member of a union, or to one of the parts of a
split. -/
inductive Step where
  | inner
  | operator
  | field
  | value
  | side (s : Side)
deriving DecidableEq

/-- The order in which the parts of a node are gone through. -/
def Step.rank : Step → Nat
  | inner => 0
  | operator => 1
  | field => 2
  | value => 3
  | side .pass => 4
  | side .fail => 5

theorem Step.rank_injective : Function.Injective Step.rank := by
  rintro (_ | _ | _ | _ | _ | _) (_ | _ | _ | _ | _ | _) h <;> first | rfl | cases h

instance : LinearOrder Step :=
  LinearOrder.lift' Step.rank Step.rank_injective

/-- The steps from the outermost node to a part of a definition. -/
abbrev Place : Type := List Step

variable {members : List (String × Json)} {field v p f : Json} {q : Place} {d : Defect}

/-- What can be wrong with the operator of a split. -/
inductive OperatorDefect (members : List (String × Json)) : Defect → Prop where
  | missing (h : ∀ op, Json.lookup "operator" members ≠ some (.string op)) :
      OperatorDefect members .noOperator
  | other {op : String} (h : Json.lookup "operator" members = some (.string op)) (hop : op ≠ "<=") :
      OperatorDefect members (.operator op)

/-- What can be wrong with the `field` of a split. -/
inductive FieldDefect : Json → Defect → Prop where
  | name {text : String} (h : ∀ i, ¬SpellsFeature (.string text) i) :
      FieldDefect (.string text) (.featureName text)
  | index {n : Json.Number} (h : ∀ i, ¬SpellsFeature (.number n) i) :
      FieldDefect (.number n) (.featureIndex n)
  | other {field : Json} (hstring : ∀ text, field ≠ .string text)
      (hnumber : ∀ n, field ≠ .number n) : FieldDefect field .field

/-- A definition has a defect at a place. -/
inductive DefectAt : Json → Place → Defect → Prop where
  | leaf {n : Json.Number} (h : n.toFloat? = none) : DefectAt (.number n) [] (.leafValue n)
  | unexpected {v : Json} (hnumber : ∀ n, v ≠ .number n)
      (hobject : ∀ members, v ≠ .object members) : DefectAt v [] (.unexpected v)
  | notUnion {members : List (String × Json)} (hfield : Json.lookup "field" members = none)
      (hlength : members.length ≠ 1) : DefectAt (.object members) [] .notUnion
  | inner {key : String} {v : Json} {q : Place} {d : Defect} (hkey : key ≠ "field")
      (h : DefectAt v q d) : DefectAt (.object [(key, v)]) (.inner :: q) d
  | operator {members : List (String × Json)} {field : Json} {d : Defect}
      (hfield : Json.lookup "field" members = some field) (h : OperatorDefect members d) :
      DefectAt (.object members) [.operator] d
  | field {members : List (String × Json)} {field : Json} {d : Defect}
      (hfield : Json.lookup "field" members = some field) (h : FieldDefect field d) :
      DefectAt (.object members) [.field] d
  | value {members : List (String × Json)} {field : Json}
      (hfield : Json.lookup "field" members = some field)
      (h : ∀ value x, Json.lookup "value" members = some value → ¬SpellsThreshold value x) :
      DefectAt (.object members) [.value] .noValue
  | noSide {members : List (String × Json)} {field : Json} {s : Side}
      (hfield : Json.lookup "field" members = some field)
      (h : Json.lookup s.key members = none) :
      DefectAt (.object members) [.side s] (.noBranch s.key)
  | side {members : List (String × Json)} {field v : Json} {s : Side} {q : Place} {d : Defect}
      (hfield : Json.lookup "field" members = some field)
      (hv : Json.lookup s.key members = some v) (h : DefectAt v q d) :
      DefectAt (.object members) (.side s :: q) d

/-- A definition has a defect, and every other one is at a later place. -/
def FirstDefect (v : Json) (d : Defect) : Prop :=
  ∃ q, DefectAt v q d ∧ ∀ q' d', DefectAt v q' d' → q < q' ∨ q' = q ∧ d' = d

/-- There is at most one first defect. -/
theorem FirstDefect.unique {d' : Defect} (h : FirstDefect v d) (h' : FirstDefect v d') :
    d = d' := by
  obtain ⟨q, hq, hfirst⟩ := h
  obtain ⟨q', hq', hfirst'⟩ := h'
  rcases hfirst q' d' hq' with hlt | ⟨-, hd⟩
  · rcases hfirst' q d hq with hlt' | ⟨-, hd⟩
    · exact absurd hlt' (lt_asymm hlt)
    · exact hd
  · exact hd.symm

/-- A value whose only defect is its own. -/
theorem firstDefect_of_iff (h : ∀ q d', DefectAt v q d' ↔ q = [] ∧ d' = d) : FirstDefect v d :=
  ⟨[], (h [] d).mpr ⟨rfl, rfl⟩, fun q d' hd => Or.inr ((h q d').mp hd)⟩

/-! ### Nodes that are no splits -/

theorem defectAt_number_iff {n : Json.Number} :
    DefectAt (.number n) q d ↔ n.toFloat? = none ∧ q = [] ∧ d = .leafValue n := by
  constructor
  · intro h
    cases h with
    | leaf hnone => exact ⟨hnone, rfl, rfl⟩
    | unexpected hnumber => exact absurd rfl (hnumber n)
  · rintro ⟨hnone, rfl, rfl⟩
    exact .leaf hnone

theorem defectAt_union_iff {key : String} (hfield : Json.lookup "field" [(key, v)] = none) :
    DefectAt (.object [(key, v)]) q d ↔ ∃ rest, q = .inner :: rest ∧ DefectAt v rest d := by
  constructor
  · intro h
    cases h with
    | unexpected _ hobject => exact absurd rfl (hobject _)
    | notUnion _ hlength => exact absurd rfl hlength
    | inner _ h => exact ⟨_, rfl, h⟩
    | operator hfield' | field hfield' | value hfield' | noSide hfield' | side hfield' =>
        cases hfield.symm.trans hfield'
  · rintro ⟨rest, rfl, h⟩
    exact .inner (lookup_singleton_eq_none_iff.mp hfield) h

theorem defectAt_notUnion_iff (hfield : Json.lookup "field" members = none)
    (hlength : members.length ≠ 1) :
    DefectAt (.object members) q d ↔ q = [] ∧ d = .notUnion := by
  constructor
  · intro h
    cases h with
    | unexpected _ hobject => exact absurd rfl (hobject _)
    | notUnion => exact ⟨rfl, rfl⟩
    | inner => exact absurd rfl hlength
    | operator hfield' | field hfield' | value hfield' | noSide hfield' | side hfield' =>
        cases hfield.symm.trans hfield'
  · rintro ⟨rfl, rfl⟩
    exact .notUnion hfield hlength

theorem defectAt_unexpected_iff (hnumber : ∀ n, v ≠ .number n)
    (hobject : ∀ members, v ≠ .object members) :
    DefectAt v q d ↔ q = [] ∧ d = .unexpected v := by
  constructor
  · intro h
    cases h with
    | unexpected => exact ⟨rfl, rfl⟩
    | leaf => exact absurd rfl (hnumber _)
    | notUnion | inner | operator | field | value | noSide | side =>
        exact absurd rfl (hobject _)
  · rintro ⟨rfl, rfl⟩
    exact .unexpected hnumber hobject

theorem firstDefect_number {n : Json.Number} (h : n.toFloat? = none) :
    FirstDefect (.number n) (.leafValue n) :=
  firstDefect_of_iff fun _ _ => defectAt_number_iff.trans (and_iff_right h)

/-- The first defect of a union is that of its member. -/
theorem FirstDefect.union {key : String} (h : FirstDefect v d)
    (hfield : Json.lookup "field" [(key, v)] = none) : FirstDefect (.object [(key, v)]) d := by
  obtain ⟨q, hq, hafter⟩ := h
  refine ⟨.inner :: q, (defectAt_union_iff hfield).mpr ⟨q, rfl, hq⟩, fun q' d' hd => ?_⟩
  obtain ⟨rest, rfl, hrest⟩ := (defectAt_union_iff hfield).mp hd
  rcases hafter rest d' hrest with hlt | ⟨rfl, rfl⟩
  · exact Or.inl (List.cons_lt_cons_iff.mpr (Or.inr ⟨rfl, hlt⟩))
  · exact Or.inr ⟨rfl, rfl⟩

theorem firstDefect_notUnion (hfield : Json.lookup "field" members = none)
    (hmembers : ∀ key v, members ≠ [(key, v)]) : FirstDefect (.object members) .notUnion := by
  have hlength : members.length ≠ 1 := by
    intro hone
    obtain ⟨⟨key, v⟩, rfl⟩ := List.length_eq_one_iff.mp hone
    exact hmembers key v rfl
  exact firstDefect_of_iff fun _ _ => defectAt_notUnion_iff hfield hlength

/-! ### The checks of a split -/

theorem checkOperator_eq_error_iff :
    checkOperator members = .error d ↔ OperatorDefect members d := by
  constructor
  · intro h
    rw [checkOperator] at h
    split at h
    · rename_i op hop
      split at h
      · cases h
      · rename_i hne
        cases h
        exact .other hop hne
    · rename_i hop
      cases h
      exact .missing hop
  · intro h
    rw [checkOperator]
    cases h with
    | missing h =>
        split
        · rename_i op hop
          exact absurd hop (h op)
        · rfl
    | other h hop =>
        simp only [h]
        exact if_neg hop

theorem FieldDefect.not_spellsFeature (h : FieldDefect field d) (i : Nat) :
    ¬SpellsFeature field i := by
  cases h with
  | name h | index h => exact h i
  | other hstring hnumber =>
      intro hfeature
      cases hfeature with
      | name => exact hstring _ rfl
      | index => exact hnumber _ rfl

theorem FieldDefect.unique {d' : Defect} (h : FieldDefect field d) (h' : FieldDefect field d') :
    d = d' := by
  cases h with
  | name =>
      cases h' with
      | name => rfl
      | other hstring => exact absurd rfl (hstring _)
  | index =>
      cases h' with
      | index => rfl
      | other _ hnumber => exact absurd rfl (hnumber _)
  | other hstring hnumber =>
      cases h' with
      | name => exact absurd rfl (hstring _)
      | index => exact absurd rfl (hnumber _)
      | other => rfl

theorem fieldDefect_of_readField (h : readField field = .error d) : FieldDefect field d := by
  have hfeature : ∀ i, ¬SpellsFeature field i := by
    intro i hi
    rw [readField_eq_ok_iff.mpr hi] at h
    cases h
  rw [readField.eq_def] at h
  split at h
  · split at h
    · cases h
    · cases h
      exact .name hfeature
  · split at h
    · cases h
    · cases h
      exact .index hfeature
  · rename_i hstring hnumber
    cases h
    exact .other hstring hnumber

theorem readField_eq_error_iff : readField field = .error d ↔ FieldDefect field d := by
  refine ⟨fieldDefect_of_readField, fun h => ?_⟩
  cases hread : readField field with
  | ok i => exact absurd (readField_eq_ok_iff.mp hread) (h.not_spellsFeature i)
  | error e => rw [(fieldDefect_of_readField hread).unique h]

theorem eq_noValue_of_readThreshold (h : readThreshold members = .error d) : d = .noValue := by
  rw [readThreshold] at h
  split at h
  · cases h
  · cases h
    rfl

theorem readThreshold_eq_error_iff :
    readThreshold members = .error d ↔
      (∀ value x, Json.lookup "value" members = some value → ¬SpellsThreshold value x) ∧
        d = .noValue := by
  constructor
  · intro h
    refine ⟨fun value x hvalue hx => ?_, eq_noValue_of_readThreshold h⟩
    rw [readThreshold_eq_ok_iff.mpr ⟨value, hvalue, hx⟩] at h
    cases h
  · rintro ⟨h, rfl⟩
    cases hread : readThreshold members with
    | ok x =>
        obtain ⟨value, hvalue, hx⟩ := readThreshold_eq_ok_iff.mp hread
        exact absurd hx (h value x hvalue)
    | error e => rw [eq_noValue_of_readThreshold hread]

/-! ### The defects of a split, step by step -/

theorem not_defectAt_nil (hfield : Json.lookup "field" members = some field) :
    ¬DefectAt (.object members) [] d := by
  intro h
  cases h with
  | unexpected _ hobject => exact hobject members rfl
  | notUnion hnone => cases hnone.symm.trans hfield

theorem not_defectAt_inner (hfield : Json.lookup "field" members = some field) :
    ¬DefectAt (.object members) (.inner :: q) d := by
  intro h
  cases h with
  | inner hkey => cases (lookup_singleton_eq_none_iff.mpr hkey).symm.trans hfield

theorem defectAt_operator_iff (hfield : Json.lookup "field" members = some field) :
    DefectAt (.object members) (.operator :: q) d ↔ checkOperator members = .error d ∧ q = [] := by
  rw [checkOperator_eq_error_iff]
  constructor
  · intro h
    cases h with
    | operator _ h => exact ⟨h, rfl⟩
  · rintro ⟨h, rfl⟩
    exact .operator hfield h

theorem defectAt_field_iff (hfield : Json.lookup "field" members = some field) :
    DefectAt (.object members) (.field :: q) d ↔ readField field = .error d ∧ q = [] := by
  rw [readField_eq_error_iff]
  constructor
  · intro h
    cases h with
    | field hfield' h =>
        cases hfield.symm.trans hfield'
        exact ⟨h, rfl⟩
  · rintro ⟨h, rfl⟩
    exact .field hfield h

theorem defectAt_value_iff (hfield : Json.lookup "field" members = some field) :
    DefectAt (.object members) (.value :: q) d ↔ readThreshold members = .error d ∧ q = [] := by
  rw [readThreshold_eq_error_iff]
  constructor
  · intro h
    cases h with
    | value _ h => exact ⟨⟨h, rfl⟩, rfl⟩
  · rintro ⟨⟨h, rfl⟩, rfl⟩
    exact .value hfield h

theorem defectAt_noSide_iff {s : Side} (hfield : Json.lookup "field" members = some field)
    (hnone : Json.lookup s.key members = none) :
    DefectAt (.object members) (.side s :: q) d ↔ d = .noBranch s.key ∧ q = [] := by
  constructor
  · intro h
    cases h with
    | noSide => exact ⟨rfl, rfl⟩
    | side _ hv => cases hnone.symm.trans hv
  · rintro ⟨rfl, rfl⟩
    exact .noSide hfield hnone

theorem defectAt_side_iff {s : Side} (hfield : Json.lookup "field" members = some field)
    (hv : Json.lookup s.key members = some v) :
    DefectAt (.object members) (.side s :: q) d ↔ DefectAt v q d := by
  constructor
  · intro h
    cases h with
    | noSide _ hnone => cases hnone.symm.trans hv
    | side _ hv' h =>
        cases hv.symm.trans hv'
        exact h
  · exact .side hfield hv

/-- No step of a split before the given one leads to a defect. -/
def Clear (members : List (String × Json)) (step : Step) : Prop :=
  ∀ step' q d, DefectAt (.object members) (step' :: q) d → step ≤ step'

theorem clear_operator (hfield : Json.lookup "field" members = some field) :
    Clear members .operator := by
  intro step q d h
  cases step with
  | inner => exact absurd h (not_defectAt_inner hfield)
  | operator | field | value => decide
  | side s => cases s <;> decide

/-- A step without defects clears the next one. -/
theorem Clear.next {step next : Step} (h : Clear members step)
    (hnone : ∀ q d, ¬DefectAt (.object members) (step :: q) d)
    (hnext : next.rank = step.rank + 1) : Clear members next := by
  intro step' q d hd
  have hle : step ≤ step' := h step' q d hd
  have hne : step ≠ step' := by
    rintro rfl
    exact hnone q d hd
  have hlt : step < step' := lt_of_le_of_ne hle hne
  change step.rank < step'.rank at hlt
  change next.rank ≤ step'.rank
  omega

theorem clear_field (hfield : Json.lookup "field" members = some field)
    (hoperator : checkOperator members = .ok ()) : Clear members .field := by
  refine (clear_operator hfield).next (fun q d h => ?_) rfl
  have herror := ((defectAt_operator_iff hfield).mp h).1
  cases hoperator.symm.trans herror

theorem clear_value {i : Nat} (hfield : Json.lookup "field" members = some field)
    (hoperator : checkOperator members = .ok ()) (hfeature : readField field = .ok i) :
    Clear members .value := by
  refine (clear_field hfield hoperator).next (fun q d h => ?_) rfl
  have herror := ((defectAt_field_iff hfield).mp h).1
  cases hfeature.symm.trans herror

theorem clear_pass {i : Nat} {x : Float} (hfield : Json.lookup "field" members = some field)
    (hoperator : checkOperator members = .ok ()) (hfeature : readField field = .ok i)
    (hthreshold : readThreshold members = .ok x) : Clear members (.side .pass) := by
  refine (clear_value hfield hoperator hfeature).next (fun q d h => ?_) rfl
  have herror := ((defectAt_value_iff hfield).mp h).1
  cases hthreshold.symm.trans herror

theorem Clear.fail (h : Clear members (.side .pass))
    (hfield : Json.lookup "field" members = some field)
    (hp : Json.lookup "pass" members = some p) (hpass : ∀ q d, ¬DefectAt p q d) :
    Clear members (.side .fail) :=
  h.next (fun q d hd => hpass q d ((defectAt_side_iff (s := .pass) hfield hp).mp hd)) rfl

/-- The defects at a clear step come before all others of a split. -/
theorem Clear.lt_or {step : Step} (h : Clear members step)
    (hfield : Json.lookup "field" members = some field) {q' : Place} {d' : Defect}
    (hd : DefectAt (.object members) q' d') :
    step :: q < q' ∨ ∃ rest, q' = step :: rest := by
  cases q' with
  | nil => exact absurd hd (not_defectAt_nil hfield)
  | cons step' rest =>
      rcases (h step' rest d' hd).lt_or_eq with hlt | rfl
      · exact Or.inl (List.cons_lt_cons_iff.mpr (Or.inl hlt))
      · exact Or.inr ⟨rest, rfl⟩

/-- A clear step with one defect of its own has the first one. -/
theorem Clear.firstDefect {step : Step} (h : Clear members step)
    (hfield : Json.lookup "field" members = some field) {P : Defect → Prop}
    (hiff : ∀ q d, DefectAt (.object members) (step :: q) d ↔ P d ∧ q = []) (hd : P d)
    (hunique : ∀ d', P d' → d' = d) : FirstDefect (.object members) d := by
  refine ⟨[step], (hiff [] d).mpr ⟨hd, rfl⟩, fun q' d' hd' => ?_⟩
  rcases h.lt_or hfield hd' with hlt | ⟨rest, rfl⟩
  · exact Or.inl hlt
  · obtain ⟨hP, rfl⟩ := (hiff rest d').mp hd'
    exact Or.inr ⟨rfl, hunique d' hP⟩

/-- A check that fails at a clear step has found the first defect. -/
theorem Clear.firstDefect_check {α : Type} {check : Except Defect α} {step : Step}
    (h : Clear members step) (hfield : Json.lookup "field" members = some field)
    (hiff : ∀ q d, DefectAt (.object members) (step :: q) d ↔ check = .error d ∧ q = [])
    (hcheck : check = .error d) : FirstDefect (.object members) d := by
  refine h.firstDefect hfield hiff hcheck fun d' hd' => ?_
  cases hcheck.symm.trans hd'
  rfl

theorem Clear.firstDefect_noSide {s : Side} (h : Clear members (.side s))
    (hfield : Json.lookup "field" members = some field)
    (hnone : Json.lookup s.key members = none) :
    FirstDefect (.object members) (.noBranch s.key) :=
  h.firstDefect hfield (fun _ _ => defectAt_noSide_iff hfield hnone) rfl fun _ hd' => hd'

/-- The first defect of a side, if nothing before the side is wrong. -/
theorem Clear.firstDefect_side {s : Side} (h : Clear members (.side s))
    (hfield : Json.lookup "field" members = some field) (hv : Json.lookup s.key members = some v)
    (hfirst : FirstDefect v d) : FirstDefect (.object members) d := by
  obtain ⟨q, hq, hafter⟩ := hfirst
  refine ⟨.side s :: q, .side hfield hv hq, fun q' d' hd' => ?_⟩
  rcases h.lt_or hfield hd' with hlt | ⟨rest, rfl⟩
  · exact Or.inl hlt
  · rcases hafter rest d' ((defectAt_side_iff hfield hv).mp hd') with hlt | ⟨rfl, rfl⟩
    · exact Or.inl (List.cons_lt_cons_iff.mpr (Or.inr ⟨rfl, hlt⟩))
    · exact Or.inr ⟨rfl, rfl⟩

/-! ### All definitions -/

/-- No step comes after that to the `fail` side. -/
theorem Step.eq_fail_of_le {step : Step} (h : .side .fail ≤ step) : step = .side .fail := by
  have hrank : Step.rank (.side .fail) ≤ step.rank := h
  refine Step.rank_injective (Nat.le_antisymm ?_ hrank)
  rcases step with _ | _ | _ | _ | _ | _ <;> decide

theorem not_defectAt_split (hclear : Clear members (.side .fail))
    (hfield : Json.lookup "field" members = some field)
    (hf : Json.lookup "fail" members = some f) (hfail : ∀ q d, ¬DefectAt f q d) :
    ¬DefectAt (.object members) q d := by
  intro hd
  cases q with
  | nil => exact not_defectAt_nil hfield hd
  | cons step rest =>
      obtain rfl := Step.eq_fail_of_le (hclear step rest d hd)
      exact hfail rest d ((defectAt_side_iff (s := .fail) hfield hf).mp hd)

/-- A tree that is read has no defects. -/
theorem not_defectAt_of_ofJson {t : Tree} (h : ofJson v = .ok t) : ¬DefectAt v q d := by
  fun_induction ofJson v generalizing t q d with
  | case1 n x hvalue =>
      intro hd
      cases hvalue.symm.trans (defectAt_number_iff.mp hd).1
  | case10 members field hfield hoperator i hfeature x hthreshold p hp _ pass hpass
      f hf _ fail hfail ihPass ihFail =>
      have hclear := (clear_pass hfield hoperator hfeature hthreshold).fail hfield hp
        (fun _ _ => ihPass hpass)
      exact not_defectAt_split hclear hfield hf (fun _ _ => ihFail hfail)
  | case11 key inner hfield ih =>
      intro hd
      obtain ⟨rest, -, hrest⟩ := (defectAt_union_iff hfield).mp hd
      exact ih h hrest
  | _ => cases h

/-- The fault of a reader is that of the first defect. -/
theorem firstDefect_of_ofJson (h : ofJson v = .error d) : FirstDefect v d := by
  fun_induction ofJson v generalizing d with
  | case2 n hnone =>
      cases h
      exact firstDefect_number hnone
  | case3 members field hfield e hoperator =>
      cases h
      exact (clear_operator hfield).firstDefect_check hfield
        (fun _ _ => defectAt_operator_iff hfield) hoperator
  | case4 members field hfield hoperator e hfeature =>
      cases h
      exact (clear_field hfield hoperator).firstDefect_check hfield
        (fun _ _ => defectAt_field_iff hfield) hfeature
  | case5 members field hfield hoperator i hfeature e hthreshold =>
      cases h
      exact (clear_value hfield hoperator hfeature).firstDefect_check hfield
        (fun _ _ => defectAt_value_iff hfield) hthreshold
  | case6 members field hfield hoperator i hfeature x hthreshold hp =>
      cases h
      exact (clear_pass hfield hoperator hfeature hthreshold).firstDefect_noSide hfield hp
  | case7 members field hfield hoperator i hfeature x hthreshold p hp _ e hpass ihPass =>
      cases h
      exact (clear_pass hfield hoperator hfeature hthreshold).firstDefect_side hfield hp
        (ihPass hpass)
  | case8 members field hfield hoperator i hfeature x hthreshold p hp _ pass hpass hf ihPass =>
      cases h
      have hclear := (clear_pass hfield hoperator hfeature hthreshold).fail hfield hp
        (fun _ _ => not_defectAt_of_ofJson hpass)
      exact hclear.firstDefect_noSide hfield hf
  | case9 members field hfield hoperator i hfeature x hthreshold p hp _ pass hpass f hf _ e hfail
      ihPass ihFail =>
      cases h
      have hclear := (clear_pass hfield hoperator hfeature hthreshold).fail hfield hp
        (fun _ _ => not_defectAt_of_ofJson hpass)
      exact hclear.firstDefect_side hfield hf (ihFail hfail)
  | case11 key inner hfield ih => exact (ih h).union hfield
  | case12 members hfield hmembers =>
      cases h
      exact firstDefect_notUnion hfield fun key inner => hmembers key inner
  | case13 v hnumber hobject =>
      cases h
      exact firstDefect_of_iff fun _ _ => defectAt_unexpected_iff hnumber hobject
  | _ => cases h

/-- **Faults.**  The fault of a definition is that of its first defect. -/
theorem ofJson_eq_error_iff : ofJson v = .error d ↔ FirstDefect v d := by
  refine ⟨firstDefect_of_ofJson, fun h => ?_⟩
  cases hread : ofJson v with
  | ok t =>
      obtain ⟨q, hq, -⟩ := h
      exact absurd hq (not_defectAt_of_ofJson hread)
  | error e => rw [(firstDefect_of_ofJson hread).unique h]

/-- A definition spells a tree exactly if nothing is wrong with it. -/
theorem exists_spells_iff : (∃ t, Spells v t) ↔ ∀ q d, ¬DefectAt v q d := by
  simp only [← denotes_iff_spells, ← ofJson_eq_ok_iff]
  constructor
  · rintro ⟨t, h⟩ q d
    exact not_defectAt_of_ofJson h
  · intro h
    cases hread : ofJson v with
    | ok t => exact ⟨t, rfl⟩
    | error d =>
        obtain ⟨q, hq, -⟩ := firstDefect_of_ofJson hread
        exact absurd hq (h q d)

theorem load_eq_ok_iff {identifier : String} {definition : Json} {tree : DecisionTree} :
    DecisionTree.load identifier definition = .ok tree ↔
      tree.identifier = identifier ∧ Spells (start definition) tree.root := by
  rw [← denotes_iff_spells, ← ofJson_eq_ok_iff, DecisionTree.load]
  cases ofJson (start definition) with
  | ok root =>
      constructor
      · rintro ⟨⟩
        exact ⟨rfl, rfl⟩
      · rintro ⟨rfl, ⟨⟩⟩
        rfl
  | error d =>
      constructor
      · rintro ⟨⟩
      · rintro ⟨-, ⟨⟩⟩

theorem load_eq_error_iff {identifier : String} {definition : Json} {fault : ForecastFault} :
    DecisionTree.load identifier definition = .error fault ↔
      ∃ d, FirstDefect (start definition) d ∧ d.toFault = fault := by
  simp only [← ofJson_eq_error_iff]
  rw [DecisionTree.load]
  cases ofJson (start definition) with
  | ok root => simp
  | error d => simp

/-- A defect is reported as an operator that is not supported, or as an invalid tree with its
text. -/
theorem toFault_cases (d : Defect) :
    (∃ op, d = .operator op ∧ d.toFault = .unsupportedOperator op) ∨
      (∀ op, d ≠ .operator op) ∧ d.toFault = .invalidTree d.text := by
  cases d with
  | operator op => exact Or.inl ⟨op, rfl, rfl⟩
  | _ => exact Or.inr ⟨fun op h => (by cases h), rfl⟩

/-- **Loading.**  Exactly one node of a document is read, in which every number is a leaf.  What is
loaded is the tree that this node spells.  If it spells none, its first defect is reported: another
operator as unsupported, everything else as an invalid tree. -/
theorem load_iff (identifier : String) (definition : Json) :
    ∃ node, (∀ v, StandsAt definition v ↔ v = node) ∧
      (∀ n : Json.Number, n.Fits → ∃ x, Spells (.number n) (.leaf x)) ∧
      (∀ tree, DecisionTree.load identifier definition = .ok tree ↔
        tree.identifier = identifier ∧ Spells node tree.root) ∧
      (∀ op, DecisionTree.load identifier definition = .error (.unsupportedOperator op) ↔
        FirstDefect node (.operator op)) ∧
      (∀ text, DecisionTree.load identifier definition = .error (.invalidTree text) ↔
        ∃ d, FirstDefect node d ∧ (∀ op, d ≠ .operator op) ∧ d.text = text) ∧
      ∀ fault, DecisionTree.load identifier definition = .error fault →
        (∃ op, fault = .unsupportedOperator op) ∨ ∃ text, fault = .invalidTree text := by
  refine ⟨start definition, fun _ => standsAt_iff, fun _ => exists_spells_of_fits,
    fun _ => load_eq_ok_iff, fun op => ?_, fun text => ?_, fun fault hfault => ?_⟩
  · rw [load_eq_error_iff]
    constructor
    · rintro ⟨d, hfirst, hfault⟩
      rcases toFault_cases d with ⟨op', rfl, -⟩ | ⟨-, htext⟩
      · cases hfault
        exact hfirst
      · cases htext.symm.trans hfault
    · exact fun hfirst => ⟨.operator op, hfirst, rfl⟩
  · rw [load_eq_error_iff]
    constructor
    · rintro ⟨d, hfirst, hfault⟩
      rcases toFault_cases d with ⟨op', rfl, -⟩ | ⟨hne, htext⟩
      · cases hfault
      · cases htext.symm.trans hfault
        exact ⟨d, hfirst, hne, rfl⟩
    · rintro ⟨d, hfirst, hne, rfl⟩
      rcases toFault_cases d with ⟨op', rfl, -⟩ | ⟨-, htext⟩
      · exact absurd rfl (hne op')
      · exact ⟨d, hfirst, htext⟩
  · obtain ⟨d, -, rfl⟩ := load_eq_error_iff.mp hfault
    rcases toFault_cases d with ⟨op, -, h⟩ | ⟨-, h⟩
    · exact Or.inl ⟨op, h⟩
    · exact Or.inr ⟨d.text, h⟩

end SpotForecast.Tree
