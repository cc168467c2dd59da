import SpotForecast.Proofs.Category.Written
import SpotForecast.Proofs.Feed.Rows
import SpotForecast.Proofs.History.Window

/-!
# Two ways to tell categories apart

The price history compares keys part by part, a grid compares the written forms of keys, which are
the names of its columns.  `Identified` asks that both come to the same for some observations: a
key is that of a text exactly if its name is the text, a column has observations of one key only,
and what a column shows can be fetched under its name.

A feed may have any parts between its tabs, so this can fail: with an underscore at the end of one
part or at the start of the next, or with a pair of them inside a part, two keys can have one
written form.  `identified_iff` says that it fails for no other reason.  The reason is the same for
the observations one by one: `tells_iff` says when one of them is told apart by both.
-/

namespace SpotForecast

/-- A text that denotes a key denotes that of an observation exactly if it is its name. -/
def Observation.Tells (o : Observation) : Prop :=
  ∀ text key, Category.parse? text = some key → (o.category = key ↔ o.name = text)

/-- Keys and names tell the same observations apart. -/
structure Identified (observations : List Observation) : Prop where
  tells : ∀ o ∈ observations, o.Tells
  one_key : ∀ o ∈ observations, ∀ o' ∈ observations, o.name = o'.name → o.category = o'.category
  /-- An observation can be fetched under the name of its column, with any window around it. -/
  fetched : ∀ o ∈ observations, ∀ stop days start, stop.daysBefore? days = some start →
    start ≤ o.time → o.time ≤ stop →
      ∃ found, History.fetch observations stop o.name days = .ok found ∧ o ∈ found

variable {o : Observation} {observations : List Observation}

/-- An observation with the key that a text denotes has that text as its name. -/
theorem Observation.name_of_parse? {text : String}
    (h : Category.parse? text = some o.category) : o.name = text :=
  Category.canonical_of_parse? h

/-- **One observation.**  It is told apart by its key and by its name in the same way exactly if
its key is plain or its name denotes no key at all. -/
theorem Observation.tells_iff :
    o.Tells ↔ o.category.Plain ∨ Category.parse? o.name = none := by
  constructor
  · intro h
    cases hname : Category.parse? o.name with
    | none => exact Or.inr rfl
    | some key =>
        obtain rfl := (h o.name key hname).mpr rfl
        exact Or.inl (Category.parse?_canonical_iff.mp hname)
  · intro h text key hkey
    constructor
    · rintro rfl
      exact Observation.name_of_parse? hkey
    · rintro rfl
      rcases h with hplain | hnone
      · rw [Observation.name, Category.parse?_canonical_iff.mpr hplain] at hkey
        exact Option.some.inj hkey
      · rw [hnone] at hkey
        cases hkey

/-- Nothing lies between an instant of the calendar and the same instant no days earlier. -/
theorem Instant.daysBefore?_zero {t : Instant} (h : t.inCalendar = true) :
    t.daysBefore? 0 = some t := by
  simp only [Instant.inCalendar, Bool.and_eq_true, decide_eq_true_eq] at h
  simp [Instant.daysBefore?, h.1]

/-- An observation that is found under its name has a plain key. -/
theorem plain_of_fetched {stop : Instant} {days : Nat} {found : List Observation}
    (hfetch : History.fetch observations stop o.name days = .ok found) (hfound : o ∈ found) :
    o.category.Plain := by
  cases hname : Category.parse? o.name with
  | none =>
      rw [History.fetch_of_malformed hname] at hfetch
      cases hfetch
      cases hfound
  | some key =>
      cases hstart : stop.daysBefore? days with
      | none =>
          rw [History.fetch_of_tooEarly hname hstart] at hfetch
          cases hfetch
      | some start =>
          rw [History.fetch_of_key hname hstart] at hfetch
          cases hfetch
          obtain ⟨rfl, -⟩ := History.inWindow_eq_true_iff.mp (List.mem_filter.mp hfound).2
          exact Category.parse?_canonical_iff.mp hname

/-- **Plain keys suffice.**  Observations with plain keys are told apart by keys and by names. -/
theorem identified_of_plain (h : ∀ o ∈ observations, o.category.Plain) :
    Identified observations where
  tells o ho := Observation.tells_iff.mpr (Or.inl (h o ho))
  one_key o ho o' ho' hname := by
    have hkey := Category.parse?_canonical_iff.mpr (h o ho)
    have hkey' := Category.parse?_canonical_iff.mpr (h o' ho')
    rw [Observation.name, Observation.name] at hname
    rw [hname, hkey'] at hkey
    exact (Option.some.inj hkey).symm
  fetched o ho stop days start hstart hafter hbefore := by
    have hkey := Category.parse?_canonical_iff.mpr (h o ho)
    exact ⟨_, History.fetch_of_key hkey hstart,
      List.mem_filter.mpr ⟨ho, History.inWindow_eq_true_iff.mpr ⟨rfl, hafter, hbefore⟩⟩⟩

/-- **Keys and names of a feed.**  For every feed, an observation is told apart by its key and by
its name in the same way exactly if its key is plain or its name denotes no key; and columns have
one key each, under whose name all they show can be fetched, exactly if all keys are plain. -/
theorem identified_iff {text : String} (hfeed : Feed.parse text = .ok observations) :
    (∀ o ∈ observations, o.Tells ↔ o.category.Plain ∨ Category.parse? o.name = none) ∧
      (Identified observations ↔ ∀ o ∈ observations, o.category.Plain) := by
  refine ⟨fun o _ => Observation.tells_iff, fun h o ho => ?_, identified_of_plain⟩
  -- a window of no days around the observation itself
  have hstart := Instant.daysBefore?_zero (Feed.inCalendar_of_parse hfeed ho)
  obtain ⟨found, hfetch, hfound⟩ := h.fetched o ho o.time 0 o.time hstart (le_refl _) (le_refl _)
  exact plain_of_fetched hfetch hfound

/-- A feed with two keys that have the same written form, one of which is plain. -/
def ambiguousFeed : String :=
  "0\t1.0\t2022-06-07T00:00:00Z\ta_\tb\tc\n0\t2.0\t2022-06-07T00:00:00Z\ta\t_b\tc\n"

def ambiguous : List Observation :=
  [⟨⟨1654560000, 0⟩, 1.0, ⟨"a_", "b", "c"⟩⟩, ⟨⟨1654560000, 0⟩, 2.0, ⟨"a", "_b", "c"⟩⟩]

theorem parse_ambiguousFeed : Feed.parse ambiguousFeed = .ok ambiguous :=
  (Feed.parse_eq_ofLines rfl).trans rfl

/-- For the ambiguous feed, keys and names tell the same apart exactly if its keys are plain. -/
theorem identified_iff_ambiguous :
    Feed.parse ambiguousFeed = .ok ambiguous ∧
      (∀ o ∈ ambiguous, o.Tells ↔ o.category.Plain ∨ Category.parse? o.name = none) ∧
      (Identified ambiguous ↔ ∀ o ∈ ambiguous, o.category.Plain) :=
  ⟨parse_ambiguousFeed, identified_iff parse_ambiguousFeed⟩

/-- A feed with two keys of one written form: the name of the first observation denotes the key of
the second, the two share a column, and the first cannot be fetched under its name. -/
theorem not_identified_ambiguous :
    Feed.parse ambiguousFeed = .ok ambiguous ∧ (∃ o ∈ ambiguous, ¬o.Tells) ∧
      (∃ o ∈ ambiguous, ∃ o' ∈ ambiguous, o.name = o'.name ∧ o.category ≠ o'.category) ∧
      ¬Identified ambiguous := by
  have hkey : Category.parse? "a___b__c" = some ⟨"a", "_b", "c"⟩ := by decide +kernel
  have hnames : ∀ o ∈ ambiguous, o.name = "a___b__c" := by decide +kernel
  have hfirst : ∃ o ∈ ambiguous, o.category = ⟨"a_", "b", "c"⟩ := by decide +kernel
  have hsecond : ∃ o ∈ ambiguous, o.category = ⟨"a", "_b", "c"⟩ := by decide +kernel
  obtain ⟨o, ho, hcategory⟩ := hfirst
  obtain ⟨o', ho', hcategory'⟩ := hsecond
  have htells : ¬o.Tells := by
    intro h
    have hsame := (h "a___b__c" ⟨"a", "_b", "c"⟩ hkey).mpr (hnames o ho)
    rw [hcategory] at hsame
    exact absurd hsame (by decide)
  have hname : o.name = o'.name := by rw [hnames o ho, hnames o' ho']
  have hdistinct : o.category ≠ o'.category := by
    rw [hcategory, hcategory']
    decide
  exact ⟨parse_ambiguousFeed, ⟨o, ho, htells⟩, ⟨o, ho, o', ho', hname, hdistinct⟩,
    fun h => htells (h.tells o ho)⟩

end SpotForecast
