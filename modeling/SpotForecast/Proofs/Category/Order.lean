import Mathlib.Data.List.Dedup
import Mathlib.Data.List.Pairwise
import SpotForecast.Proofs.Category.Written
import SpotForecast.Proofs.Feed.Rows
import SpotForecast.Proofs.Grid.Columns
import SpotForecast.Proofs.Text.Bytes

/-!
# The order of keys and the order of their written forms

Keys are compared part by part, the columns of a grid by the written forms of their keys.  A part
that ends is less than any part that goes on, but in writing it does not end: the mark between the
parts follows, and most characters that stand in keys, such as blanks, hyphens, slashes and digits,
come before an underscore.  So a longer part can be written before a shorter one.

`Overtakes` says when this happens, by the first character with which the longer part goes on.
`overtakes_iff` says that it is the only way in which the two orders differ, and `sameOrder_iff`
what follows for comparing two keys, for sorting keys and for the columns of a grid.
-/

namespace SpotForecast

namespace Category

open Text

variable {j k : Category} {p q : List Char} {ps qs : List (List Char)}

/-- The parts of a key, in the order in which they are compared and written. -/
def parts (c : Category) : List (List Char) :=
  [c.resourceType.toList, c.description.toList, c.zone.toList]

/-- Later parts that are written before earlier ones.  In the first part in which they differ the
later one goes on where the earlier one ends, and what it goes on with is less than the mark that
is written there between the earlier parts. -/
inductive Overtakes : List (List Char) → List (List Char) → Prop where
  /-- It goes on with a character below the underscore. -/
  | lower {part more : List Char} {ps qs : List (List Char)} {c : Char} (hps : ps ≠ [])
      (hc : c < '_') : Overtakes ((part ++ c :: more) :: qs) (part :: ps)
  /-- It goes on with an underscore and then with something less than the other half of the mark
  and the parts behind that. -/
  | underscore {part more : List Char} {ps qs : List (List Char)} (hps : ps ≠ [])
      (hmore : joinPieces separator (more :: qs) < '_' :: joinPieces separator ps) :
      Overtakes ((part ++ '_' :: more) :: qs) (part :: ps)
  | later {part : List Char} {ps qs : List (List Char)} (h : Overtakes qs ps) :
      Overtakes (part :: qs) (part :: ps)

/-! ### Parts and what is written -/

theorem lt_iff_parts_lt : j < k ↔ j.parts < k.parts := by
  have hlt : j < k ↔ j.resourceType < k.resourceType ∨ (j.resourceType = k.resourceType ∧
      (j.description < k.description ∨ (j.description = k.description ∧ j.zone < k.zone))) :=
    Iff.rfl
  simp only [hlt, parts, List.cons_lt_cons_iff, String.lt_iff_toList_lt, String.toList_inj,
    List.not_lt_nil, and_false, or_false]

theorem parts_injective : Function.Injective parts := by
  rintro ⟨jt, jd, jz⟩ ⟨kt, kd, kz⟩ h
  simpa [parts, String.toList_inj] using h

theorem canonical_lt_iff : canonical j < canonical k ↔
    joinPieces separator j.parts < joinPieces separator k.parts := by
  rw [String.lt_iff_toList_lt, canonical, canonical, String.toList_ofList, String.toList_ofList]
  rfl

theorem joinPieces_append_cons (front rest : List Char) (ps : List (List Char)) :
    joinPieces separator ((front ++ rest) :: ps) = front ++ joinPieces separator (rest :: ps) := by
  cases ps with
  | nil => rfl
  | cons p ps => simp [joinPieces]

theorem joinPieces_cons (part : List Char) (hps : ps ≠ []) :
    joinPieces separator (part :: ps) = part ++ '_' :: '_' :: joinPieces separator ps := by
  cases ps with
  | nil => exact absurd rfl hps
  | cons p ps => simp [joinPieces, separator]

/-- Where a part goes on, so does what is written. -/
theorem joinPieces_longer (common more : List Char) (c : Char) (ps : List (List Char)) :
    joinPieces separator ((common ++ c :: more) :: ps) =
      common ++ c :: joinPieces separator (more :: ps) := by
  rw [joinPieces_append_cons]
  exact congrArg (common ++ ·) (joinPieces_consFirst c (more :: ps))

/-- Behind the same part the other parts count. -/
theorem joinPieces_cons_lt_iff (part : List Char) (hps : ps ≠ []) (hqs : qs ≠ []) :
    joinPieces separator (part :: qs) < joinPieces separator (part :: ps) ↔
      joinPieces separator qs < joinPieces separator ps := by
  rw [joinPieces_cons part hps, joinPieces_cons part hqs, append_lt_append_left_iff,
    List.cons_lt_cons_iff, List.cons_lt_cons_iff]
  simp

/-- Where a part ends, what a longer part goes on with is compared with the mark. -/
theorem joinPieces_longer_lt_iff (part more : List Char) (c : Char) (hps : ps ≠ []) :
    joinPieces separator ((part ++ c :: more) :: qs) < joinPieces separator (part :: ps) ↔
      c < '_' ∨ c = '_' ∧ joinPieces separator (more :: qs) < '_' :: joinPieces separator ps := by
  rw [joinPieces_longer, joinPieces_cons part hps, append_lt_append_left_iff,
    List.cons_lt_cons_iff]

/-- Where two parts differ in a character, it decides. -/
theorem joinPieces_lt_of_differ {c d : Char} (h : c < d) (common x y : List Char)
    (ps qs : List (List Char)) : joinPieces separator ((common ++ c :: x) :: ps) <
      joinPieces separator ((common ++ d :: y) :: qs) := by
  rw [joinPieces_longer, joinPieces_longer, append_lt_append_left_iff, List.cons_lt_cons_iff]
  exact Or.inl h

/-- Of two texts in order, the later one goes on where the earlier one ends, or they differ in a
character. -/
theorem lt_cases (h : p < q) : (∃ c more, q = p ++ c :: more) ∨
    ∃ common c d x y, c < d ∧ p = common ++ c :: x ∧ q = common ++ d :: y := by
  induction h with
  | @nil c more => exact Or.inl ⟨c, more, rfl⟩
  | @rel c x d y hlt => exact Or.inr ⟨[], c, d, x, y, hlt, rfl, rfl⟩
  | @cons a p q _ ih =>
      rcases ih with ⟨c, more, rfl⟩ | ⟨common, c, d, x, y, hlt, rfl, rfl⟩
      · exact Or.inl ⟨c, more, rfl⟩
      · exact Or.inr ⟨a :: common, c, d, x, y, hlt, rfl, rfl⟩

/-! ### Overtaking -/

theorem Overtakes.ne_nil (h : Overtakes qs ps) : ps ≠ [] ∧ qs ≠ [] := by
  cases h <;> simp

theorem Overtakes.lt (h : Overtakes qs ps) : ps < qs := by
  have hlonger : ∀ (part more : List Char) (c : Char), part < part ++ c :: more := by
    intro part more c
    simpa using (append_lt_append_left_iff part [] (c :: more)).mpr (List.nil_lt_cons c more)
  induction h with
  | lower hps hc => exact List.cons_lt_cons_iff.mpr (Or.inl (hlonger _ _ _))
  | underscore hps hmore => exact List.cons_lt_cons_iff.mpr (Or.inl (hlonger _ _ _))
  | later h ih => exact List.cons_lt_cons_iff.mpr (Or.inr ⟨rfl, ih⟩)

theorem Overtakes.joinPieces_lt (h : Overtakes qs ps) :
    joinPieces separator qs < joinPieces separator ps := by
  induction h with
  | lower hps hc => exact (joinPieces_longer_lt_iff _ _ _ hps).mpr (Or.inl hc)
  | underscore hps hmore => exact (joinPieces_longer_lt_iff _ _ _ hps).mpr (Or.inr ⟨rfl, hmore⟩)
  | later h ih => exact (joinPieces_cons_lt_iff _ h.ne_nil.1 h.ne_nil.2).mpr ih

/-- **Overtaking.**  Of as many parts, those that come later and are written before the others are
those that overtake them. -/
theorem overtakes_iff (hlength : ps.length = qs.length) : Overtakes qs ps ↔
    ps < qs ∧ joinPieces separator qs < joinPieces separator ps := by
  refine ⟨fun h => ⟨h.lt, h.joinPieces_lt⟩, ?_⟩
  rintro ⟨hlt, hwritten⟩
  induction ps generalizing qs with
  | nil =>
      cases qs with
      | nil => exact absurd hlt (List.not_lt_nil _)
      | cons q qs => simp at hlength
  | cons p ps ih =>
      cases qs with
      | nil => simp at hlength
      | cons q qs =>
          have hrest : ps.length = qs.length := by simpa using hlength
          rcases List.cons_lt_cons_iff.mp hlt with hpart | ⟨rfl, hlater⟩
          · rcases lt_cases hpart with ⟨c, more, rfl⟩ | ⟨common, c, d, x, y, hcd, rfl, rfl⟩
            · have hps : ps ≠ [] := by
                rintro rfl
                -- no mark stands behind the last part, where the shorter one is written first
                obtain rfl := List.length_eq_zero_iff.mp hrest.symm
                exact absurd hwritten (List.lt_asymm hpart)
              rcases (joinPieces_longer_lt_iff p more c hps).mp hwritten with hc | ⟨rfl, hmore⟩
              · exact .lower hps hc
              · exact .underscore hps hmore
            · exact absurd hwritten (List.lt_asymm (joinPieces_lt_of_differ hcd common x y ps qs))
          · have hqs : qs ≠ [] := by
              rintro rfl
              exact List.not_lt_nil _ hlater
            have hps : ps ≠ [] := by
              rintro rfl
              exact hqs (List.length_eq_zero_iff.mp hrest.symm)
            exact .later (ih hrest hlater ((joinPieces_cons_lt_iff p hps hqs).mp hwritten))

/-- A key overtakes another one exactly if it comes later and is written before it. -/
theorem overtakes_parts_iff :
    Overtakes k.parts j.parts ↔ j < k ∧ canonical k < canonical j := by
  rw [overtakes_iff (by rfl), lt_iff_parts_lt, canonical_lt_iff]

/-! ### Sorting -/

theorem lt_or_eq_or_gt (j k : Category) : j < k ∨ j = k ∨ k < j := by
  rw [lt_iff_parts_lt, lt_iff_parts_lt, ← parts_injective.eq_iff]
  exact lt_trichotomy j.parts k.parts

theorem not_lt_self (k : Category) : ¬k < k := by
  rw [lt_iff_parts_lt]
  exact lt_irrefl k.parts

theorem pairwise_sort (ks : List Category) : (sort ks).Pairwise (fun j k => ¬k < j) := by
  have hle : ∀ j k : Category, (!decide (k < j)) = true ↔ j.parts ≤ k.parts := by
    intro j k
    rw [Bool.not_eq_true', decide_eq_false_iff_not, lt_iff_parts_lt, not_lt]
  refine (List.pairwise_mergeSort ?_ ?_ ks).imp fun h => by simpa using h
  · intro i j k hij hjk
    exact (hle i k).mpr (le_trans ((hle i j).mp hij) ((hle j k).mp hjk))
  · intro j k
    rw [Bool.or_eq_true, hle, hle]
    exact le_total j.parts k.parts

theorem mem_sort {ks : List Category} : k ∈ sort ks ↔ k ∈ ks :=
  (List.mergeSort_perm ks _).mem_iff

/-- **Sorted keys** are written in ascending order exactly if none of them overtakes another. -/
theorem pairwise_canonical_sort_iff {ks : List Category} :
    ((sort ks).map canonical).Pairwise (· ≤ ·) ↔
      ∀ j ∈ ks, ∀ k ∈ ks, ¬Overtakes k.parts j.parts := by
  rw [List.pairwise_map]
  constructor
  · intro hwritten
    have hrightward : (sort ks).Pairwise (fun j k => j < k → j.canonical ≤ k.canonical) := by
      refine hwritten.imp ?_
      intro j k hle _
      exact hle
    -- from right to left sorted keys are not in order, so there is nothing to say
    have hleftward : (sort ks).Pairwise (flip fun j k => j < k → j.canonical ≤ k.canonical) := by
      refine (pairwise_sort ks).imp ?_
      intro j k hsorted hlt
      exact absurd hlt hsorted
    have hagree := hrightward.forall_of_forall_of_flip (fun k _ _ => le_refl k.canonical) hleftward
    intro j hj k hk hover
    obtain ⟨hlt, hbefore⟩ := overtakes_parts_iff.mp hover
    exact not_lt_of_ge (hagree (mem_sort.mpr hj) (mem_sort.mpr hk) hlt) hbefore
  · intro hnone
    refine (pairwise_sort ks).imp_of_mem ?_
    intro j k hj hk hsorted
    refine not_lt.mp fun hbefore => ?_
    rcases lt_or_eq_or_gt j k with hlt | rfl | hgt
    · exact hnone j (mem_sort.mp hj) k (mem_sort.mp hk) (overtakes_parts_iff.mpr ⟨hlt, hbefore⟩)
    · exact lt_irrefl _ hbefore
    · exact hsorted hgt

/-- Columns are the names of the sorted keys, if these are written in ascending order. -/
theorem columnsOf_eq_sort {observations : List Observation}
    (h : ((sort (observations.map Observation.category)).map canonical).Pairwise (· ≤ ·)) :
    Grid.columnsOf observations =
      ((sort (observations.map Observation.category)).map canonical).dedup := by
  refine List.Pairwise.eq_of_mem_iff (Grid.columnsOf_pairwise _) ?_ fun name => ?_
  · have hascending := h.sublist (List.dedup_sublist _)
    exact (hascending.and (List.nodup_dedup _)).imp fun ⟨hle, hne⟩ => lt_of_le_of_ne hle hne
  · simp [Grid.mem_columnsOf, mem_sort, Observation.name]

/-- Comparing two keys, either way round, comes to the same as comparing the bytes of their written
forms. -/
structure SameOrder (j k : Category) : Prop where
  lt_iff : j < k ↔ utf8 j.canonical < utf8 k.canonical
  gt_iff : k < j ↔ utf8 k.canonical < utf8 j.canonical

/-- Two keys compare like their written forms if neither overtakes the other and they are written
alike only if they are the same. -/
theorem lt_iff_of_not_overtakes (hjk : ¬Overtakes k.parts j.parts)
    (hkj : ¬Overtakes j.parts k.parts) (halike : j.canonical = k.canonical → j = k) :
    j < k ↔ utf8 j.canonical < utf8 k.canonical := by
  rw [overtakes_parts_iff] at hjk hkj
  rw [utf8_lt_iff]
  constructor
  · intro hlt
    rcases lt_trichotomy j.canonical k.canonical with hbefore | hsame | hbehind
    · exact hbefore
    · rw [halike hsame] at hlt
      exact absurd hlt (not_lt_self k)
    · exact absurd ⟨hlt, hbehind⟩ hjk
  · intro hbefore
    rcases lt_or_eq_or_gt j k with hlt | rfl | hgt
    · exact hlt
    · exact absurd hbefore (lt_irrefl _)
    · exact absurd ⟨hgt, hbefore⟩ hkj

/-- **Two keys** are in the order of their written forms exactly if neither overtakes the other and
they are not two keys that are written alike. -/
theorem sameOrder_iff_not_overtakes : SameOrder j k ↔ ¬Overtakes k.parts j.parts ∧
    ¬Overtakes j.parts k.parts ∧ (j.canonical = k.canonical → j = k) := by
  constructor
  · rintro ⟨hlt, hgt⟩
    rw [utf8_lt_iff] at hlt hgt
    rw [overtakes_parts_iff, overtakes_parts_iff]
    refine ⟨fun ⟨hkey, hbefore⟩ => lt_asymm (hlt.mp hkey) hbefore,
      fun ⟨hkey, hbefore⟩ => lt_asymm (hgt.mp hkey) hbefore, ?_⟩
    intro hsame
    rw [hsame] at hlt hgt
    rcases lt_or_eq_or_gt j k with h | h | h
    · exact absurd (hlt.mp h) (lt_irrefl _)
    · exact h
    · exact absurd (hgt.mp h) (lt_irrefl _)
  · rintro ⟨hjk, hkj, halike⟩
    exact ⟨lt_iff_of_not_overtakes hjk hkj halike,
      lt_iff_of_not_overtakes hkj hjk fun h => (halike h.symm).symm⟩

/-- **The two orders.**  Two keys compare like the bytes of their written forms exactly if neither
overtakes the other and they are not two keys that are written alike.  Sorted keys are written in
ascending order exactly if none of them overtakes another, and then the columns of observations are
the names of their sorted keys. -/
theorem sameOrder_iff (j k : Category) :
    (SameOrder j k ↔ ¬Overtakes k.parts j.parts ∧ ¬Overtakes j.parts k.parts ∧
        (j.canonical = k.canonical → j = k)) ∧
      (∀ ks : List Category, ((sort ks).map (fun k => utf8 k.canonical)).Pairwise (· ≤ ·) ↔
        ∀ j ∈ ks, ∀ k ∈ ks, ¬Overtakes k.parts j.parts) ∧
      ∀ observations : List Observation,
        (∀ o ∈ observations, ∀ o' ∈ observations, ¬Overtakes o'.category.parts o.category.parts) →
          Grid.columnsOf observations =
            ((sort (observations.map Observation.category)).map canonical).dedup := by
  refine ⟨sameOrder_iff_not_overtakes, ?_, ?_⟩
  · intro ks
    rw [← pairwise_canonical_sort_iff, List.pairwise_map, List.pairwise_map]
    simp only [utf8_le_iff]
  · intro observations hnone
    refine columnsOf_eq_sort (pairwise_canonical_sort_iff.mpr ?_)
    simpa using hnone

/-- A key whose description goes on, after that of another one, with a slash. -/
def longerKey : Category :=
  ⟨"a", "Linux/UNIX", "z1"⟩

def shorterKey : Category :=
  ⟨"a", "Linux", "z1"⟩

/-- A feed with a price of each of the two keys. -/
def slashedFeed : String :=
  "0\t1.0\t1970-01-01T00:00:00Z\ta\tLinux\tz1\n0\t2.0\t1970-01-01T00:00:00Z\ta\tLinux/UNIX\tz1\n"

/-- The longer key comes later, but it is written before the shorter one, and so the columns of a
grid with both are not in the order of the keys. -/
theorem not_sameOrder_longerKey :
    shorterKey < longerKey ∧ utf8 longerKey.canonical < utf8 shorterKey.canonical ∧
      ¬SameOrder shorterKey longerKey ∧
      ∃ observations, Feed.parse slashedFeed = .ok observations ∧
        observations.map Observation.category = [shorterKey, longerKey] ∧
        Grid.columnsOf observations = [longerKey.canonical, shorterKey.canonical] := by
  have hlt : shorterKey < longerKey := by decide +kernel
  have hbefore : utf8 longerKey.canonical < utf8 shorterKey.canonical := by
    rw [utf8_lt_iff]
    decide +kernel
  have hdiffer : ¬SameOrder shorterKey longerKey := fun h =>
    lt_asymm (utf8_lt_iff.mp hbefore) (utf8_lt_iff.mp (h.lt_iff.mp hlt))
  refine ⟨hlt, hbefore, hdiffer,
    [⟨⟨0, 0⟩, 1.0, shorterKey⟩, ⟨⟨0, 0⟩, 2.0, longerKey⟩],
    (Feed.parse_eq_ofLines rfl).trans rfl, rfl, ?_⟩
  decide +kernel

end Category

end SpotForecast
