import Mathlib.Data.List.Basic
import SpotForecast.Tree.SingleFlight

/-!
# The moves of callers

A step of a caller is one of the eleven moves of `Move`.  What a move can do to the slot of an
identifier, to the content of a slot and to the slot that its caller holds is said once, by
`Move.find?_cases`, `Move.content?_cases` and `Move.slot?_cases`; everything else about runs is
derived from these.

`Sound` collects what holds of every state, whatever the schedule: a slot belongs to one
identifier, has at most one caller that loads into it, and is empty while there is one.  So a tree
that the cache has for an identifier stays there (`Sound.tree?_run`).
-/

namespace SpotForecast

namespace Cache

/-- The content of a slot after a tree was put into some slot. -/
theorem content?_fill (c : Cache) (slot : Nat) (tree : DecisionTree) (s : Nat) :
    (c.fill slot tree).2.content? s =
      if s = slot then some ⟨tree, c.loaded⟩ else c.content? s := by
  by_cases hs : s = slot
  · simp [fill, content?, hs]
  · have hne : (s == slot) = false := by simpa using hs
    simp [fill, content?, List.lookup_cons, hs, hne]

/-- Where an identifier without a slot gets a new one, it is the next one that is made. -/
theorem claim_of_none {c : Cache} {identifier : String} (h : c.find? identifier = none) :
    c.claim identifier =
      (c.made, { c with slots := (identifier, c.made) :: c.slots, made := c.made + 1 }) := by
  rw [claim, h]

/-- An identifier that has a slot keeps it. -/
theorem claim_of_some {c : Cache} {identifier : String} {slot : Nat}
    (h : c.find? identifier = some slot) : c.claim identifier = (slot, c) := by
  rw [claim, h]

/-- The slots after an identifier without one has got one. -/
theorem find?_claim {c : Cache} {identifier : String} (h : c.find? identifier = none)
    (other : String) : (c.claim identifier).2.find? other =
      if other = identifier then some c.made else c.find? other := by
  rw [claim_of_none h]
  by_cases hother : other = identifier
  · simp [find?, hother]
  · have hne : (other == identifier) = false := by simpa using hother
    simp [find?, List.lookup_cons, hother, hne]

/-- Looking up among the entries of other keys. -/
theorem lookup_filter_ne (identifier other : String) (slots : List (String × Nat)) :
    (slots.filter (fun entry => entry.1 != identifier)).lookup other =
      if other = identifier then none else slots.lookup other := by
  induction slots with
  | nil => simp
  | cons entry rest ih =>
      obtain ⟨key, slot⟩ := entry
      by_cases hkey : key = identifier
      · subst hkey
        rw [List.filter_cons_of_neg (by simp), ih, List.lookup_cons]
        by_cases hother : other = key
        · simp [hother]
        · have hne : (other == key) = false := by simpa using hother
          simp [hother, hne]
      · rw [List.filter_cons_of_pos (by simpa using hkey), List.lookup_cons, List.lookup_cons, ih]
        by_cases hother : other = key
        · subst hother
          simp [hkey]
        · have hne : (other == key) = false := by simpa using hother
          simp [hne]

/-- The slots after the release of one. -/
theorem find?_release (c : Cache) (identifier : String) (slot : Nat) (other : String) :
    (c.release identifier slot).find? other =
      if other = identifier ∧ c.find? identifier = some slot ∧ c.content? slot = none then none
      else c.find? other := by
  rw [release]
  by_cases hstale : c.find? identifier = some slot ∧ c.content? slot = none
  · rw [if_pos hstale]
    simp only [find?, lookup_filter_ne] at hstale ⊢
    by_cases hother : other = identifier
    · simp [hother, hstale]
    · simp [hother]
  · rw [if_neg hstale, if_neg (fun h => hstale h.2)]

/-- A release does not touch contents. -/
theorem content?_release (c : Cache) (identifier : String) (slot s : Nat) :
    (c.release identifier slot).content? s = c.content? s := by
  rw [release]
  split
  · rfl
  · rfl

/-- A release makes no slot. -/
theorem made_release (c : Cache) (identifier : String) (slot : Nat) :
    (c.release identifier slot).made = c.made := by
  rw [release]
  split
  · rfl
  · rfl

/-- The tree of an identifier is the content of its slot. -/
theorem tree?_eq_some_iff {c : Cache} {identifier : String} {l : Loaded} :
    c.tree? identifier = some l ↔
      ∃ slot, c.find? identifier = some slot ∧ c.content? slot = some l :=
  Option.bind_eq_some_iff

end Cache

/-- The slot that a caller holds. -/
def Phase.slot? : Phase → Option Nat
  | .waiting slot => some slot
  | .loading slot => some slot
  | .failing slot _ => some slot
  | .arriving => none
  | .absent => none
  | .answered _ => none

namespace Flight

/-- A move of a caller: its next phase and the cache after it. -/
inductive Move (f : Flight) (result : LoadResult) (c : Caller) : Phase → Cache → Prop where
  | find {slot : Nat} (hphase : c.phase = .arriving)
      (hfind : f.cache.find? c.identifier = some slot) : Move f result c (.waiting slot) f.cache
  | miss (hphase : c.phase = .arriving) (hfind : f.cache.find? c.identifier = none) :
      Move f result c .absent f.cache
  /-- It would make a slot, but there is one by now. -/
  | join {slot : Nat} (hphase : c.phase = .absent)
      (hfind : f.cache.find? c.identifier = some slot) : Move f result c (.waiting slot) f.cache
  | make (hphase : c.phase = .absent) (hfind : f.cache.find? c.identifier = none) :
      Move f result c (.waiting f.cache.made) (f.cache.claim c.identifier).2
  | see {slot : Nat} {l : Loaded} (hphase : c.phase = .waiting slot)
      (hcontent : f.cache.content? slot = some l) : Move f result c (.answered (.ok l)) f.cache
  | wait {slot : Nat} (hphase : c.phase = .waiting slot) (hcontent : f.cache.content? slot = none)
      (hbusy : f.busy slot = true) : Move f result c (.waiting slot) f.cache
  | enter {slot : Nat} (hphase : c.phase = .waiting slot)
      (hcontent : f.cache.content? slot = none) (hbusy : f.busy slot = false) :
      Move f result c (.loading slot) f.cache
  | land {slot : Nat} {tree : DecisionTree} (hphase : c.phase = .loading slot)
      (hresult : result = .ok tree) :
      Move f result c (.answered (.ok ⟨tree, f.cache.loaded⟩)) (f.cache.fill slot tree).2
  | fail {slot : Nat} {e : ForecastFault} (hphase : c.phase = .loading slot)
      (hresult : result = .error e) : Move f result c (.failing slot e) f.cache
  /-- It takes its slot away, if that is still there and empty. -/
  | leave {slot : Nat} {e : ForecastFault} (hphase : c.phase = .failing slot e) :
      Move f result c (.answered (.error e)) (f.cache.release c.identifier slot)
  | rest {r : Except ForecastFault Loaded} (hphase : c.phase = .answered r) :
      Move f result c (.answered r) f.cache

variable {f : Flight} {result : LoadResult} {c : Caller} {i : Nat} {phase : Phase} {cache : Cache}

/-- Every step of a caller is a move. -/
theorem move_advance (f : Flight) (result : LoadResult) (c : Caller) :
    Move f result c (f.advance result c).1 (f.advance result c).2 := by
  cases hphase : c.phase with
  | arriving =>
      cases hfind : f.cache.find? c.identifier with
      | none =>
          simp only [advance, hphase, hfind]
          exact .miss hphase hfind
      | some slot =>
          simp only [advance, hphase, hfind]
          exact .find hphase hfind
  | absent =>
      cases hfind : f.cache.find? c.identifier with
      | none =>
          have hmake : Move f result c _ _ := .make hphase hfind
          simp only [advance, hphase]
          rw [Cache.claim_of_none hfind] at hmake ⊢
          exact hmake
      | some slot =>
          simp only [advance, hphase, Cache.claim_of_some hfind]
          exact .join hphase hfind
  | waiting slot =>
      cases hcontent : f.cache.content? slot with
      | some l =>
          simp only [advance, hphase, hcontent]
          exact .see hphase hcontent
      | none =>
          cases hbusy : f.busy slot with
          | true =>
              simp only [advance, hphase, hcontent, hbusy, if_true]
              exact .wait hphase hcontent hbusy
          | false =>
              simp only [advance, hphase, hcontent, hbusy, Bool.false_eq_true, if_false]
              exact .enter hphase hcontent hbusy
  | loading slot =>
      cases result with
      | ok tree =>
          simp only [advance, hphase]
          exact .land hphase rfl
      | error e =>
          simp only [advance, hphase]
          exact .fail hphase rfl
  | failing slot e =>
      simp only [advance, hphase]
      exact .leave hphase
  | answered r =>
      simp only [advance, hphase]
      exact .rest hphase

/-- **Steps.**  A step of a caller moves that caller and the cache. -/
theorem step_move (hc : f.callers[i]? = some c) (result : LoadResult) :
    ∃ phase cache, Move f result c phase cache ∧ (f.step i result).cache = cache ∧
      (f.step i result).callers = f.callers.set i ⟨c.identifier, phase⟩ := by
  refine ⟨_, _, move_advance f result c, ?_, ?_⟩
  · simp only [step, hc]
  · simp only [step, hc]

/-- A step of nobody changes nothing. -/
theorem step_of_none (hc : f.callers[i]? = none) (result : LoadResult) :
    f.step i result = f := by
  simp only [step, hc]

/-- **Slots of identifiers.**  A move leaves the slot of an identifier alone, or gives its caller's
identifier a new one, or takes away an empty one after a failed load. -/
theorem Move.find?_cases (h : Move f result c phase cache) (identifier : String) :
    cache.find? identifier = f.cache.find? identifier ∨
      (identifier = c.identifier ∧ f.cache.find? identifier = none ∧
        cache.find? identifier = some f.cache.made ∧ cache.made = f.cache.made + 1) ∨
      ∃ slot e, identifier = c.identifier ∧ c.phase = .failing slot e ∧
        f.cache.find? identifier = some slot ∧ f.cache.content? slot = none ∧
        cache.find? identifier = none := by
  cases h with
  | make hphase hfind =>
      by_cases hidentifier : identifier = c.identifier
      · subst hidentifier
        refine Or.inr (Or.inl ⟨rfl, hfind, ?_, ?_⟩)
        · rw [Cache.find?_claim hfind, if_pos rfl]
        · rw [Cache.claim_of_none hfind]
      · rw [Cache.find?_claim hfind, if_neg hidentifier]
        exact Or.inl rfl
  | @leave slot e hphase =>
      rw [Cache.find?_release]
      split
      · rename_i hstale
        obtain ⟨rfl, hfind, hcontent⟩ := hstale
        exact Or.inr (Or.inr ⟨slot, e, rfl, hphase, hfind, hcontent, rfl⟩)
      · exact Or.inl rfl
  | _ => exact Or.inl rfl

/-- **Contents of slots.**  A move leaves all contents alone, or puts a tree into the slot that its
caller loads into, and then that tree is the caller's answer. -/
theorem Move.content?_cases (h : Move f result c phase cache) :
    (∀ s, cache.content? s = f.cache.content? s) ∨
      ∃ slot tree, c.phase = .loading slot ∧ result = .ok tree ∧
        phase = .answered (.ok ⟨tree, f.cache.loaded⟩) ∧ cache = (f.cache.fill slot tree).2 := by
  cases h with
  | make hphase hfind =>
      rw [Cache.claim_of_none hfind]
      exact Or.inl (fun s => rfl)
  | @leave slot e hphase => exact Or.inl (f.cache.content?_release c.identifier slot)
  | @land slot tree hphase hresult => exact Or.inr ⟨slot, tree, hphase, hresult, rfl, rfl⟩
  | _ => exact Or.inl (fun s => rfl)

/-- **Held slots.**  A caller that holds a slot after its move held it before, or found it as that
of its identifier, or has made it. -/
theorem Move.slot?_cases (h : Move f result c phase cache) {s : Nat}
    (hs : phase.slot? = some s) :
    c.phase.slot? = some s ∨ f.cache.find? c.identifier = some s ∨
      s = f.cache.made ∧ cache.made = f.cache.made + 1 ∧ cache.find? c.identifier = some s := by
  cases h with
  | find hphase hfind =>
      cases hs
      exact Or.inr (Or.inl hfind)
  | join hphase hfind =>
      cases hs
      exact Or.inr (Or.inl hfind)
  | make hphase hfind =>
      cases hs
      refine Or.inr (Or.inr ⟨rfl, ?_, ?_⟩)
      · rw [Cache.claim_of_none hfind]
      · rw [Cache.find?_claim hfind, if_pos rfl]
  | wait hphase hcontent hbusy =>
      cases hs
      exact Or.inl (by rw [hphase, Phase.slot?])
  | enter hphase hcontent hbusy =>
      cases hs
      exact Or.inl (by rw [hphase, Phase.slot?])
  | fail hphase hresult =>
      cases hs
      exact Or.inl (by rw [hphase, Phase.slot?])
  | _ => cases hs

/-- No slot is unmade. -/
theorem Move.made_le (h : Move f result c phase cache) : f.cache.made ≤ cache.made := by
  cases h with
  | make hphase hfind =>
      rw [Cache.claim_of_none hfind]
      exact Nat.le_succ _
  | leave hphase => exact Nat.le_of_eq (Cache.made_release _ _ _).symm
  | _ => exact Nat.le_refl _

/-- An identifier has a slot, or some caller with it still holds the slot. -/
def Knows (f : Flight) (identifier : String) (s : Nat) : Prop :=
  f.cache.find? identifier = some s ∨
    ∃ (i : Nat) (c : Caller), f.callers[i]? = some c ∧ c.identifier = identifier ∧
      c.phase.slot? = some s

/-- What holds of every state of a cache and its callers. -/
structure Sound (f : Flight) : Prop where
  known_made : ∀ {identifier s}, f.Knows identifier s → s < f.cache.made
  content_made : ∀ {s l}, f.cache.content? s = some l → s < f.cache.made
  owner : ∀ {identifier other s}, f.Knows identifier s → f.Knows other s → identifier = other
  one_loader : ∀ {i j : Nat} {c d : Caller} {s : Nat}, f.callers[i]? = some c →
    f.callers[j]? = some d → c.phase = .loading s → d.phase = .loading s → i = j
  loader_empty : ∀ {i : Nat} {c : Caller} {s : Nat}, f.callers[i]? = some c →
    c.phase = .loading s → f.cache.content? s = none

/-- Callers that all arrive at an empty cache. -/
def opening (identifiers : List String) : Flight :=
  ⟨Cache.empty, identifiers.map (fun identifier => ⟨identifier, .arriving⟩), 0⟩

/-- All callers of an opening are arriving. -/
theorem phase_opening {identifiers : List String}
    (hc : (opening identifiers).callers[i]? = some c) : c.phase = .arriving := by
  rw [opening, List.getElem?_map, Option.map_eq_some_iff] at hc
  obtain ⟨identifier, -, rfl⟩ := hc
  rfl

/-- An opening is sound. -/
theorem sound_opening (identifiers : List String) : Sound (opening identifiers) := by
  have hknows : ∀ identifier s, ¬(opening identifiers).Knows identifier s := by
    rintro identifier s (hfind | ⟨i, c, hc, -, hslot⟩)
    · cases hfind
    · rw [phase_opening hc] at hslot
      cases hslot
  constructor
  case known_made =>
    intro identifier s h
    exact absurd h (hknows identifier s)
  case content_made =>
    intro s l h
    cases h
  case owner =>
    intro identifier other s h
    exact absurd h (hknows identifier s)
  case one_loader =>
    intro i j c d s hc _ hloading
    rw [phase_opening hc] at hloading
    cases hloading
  case loader_empty =>
    intro i c s hc hloading
    rw [phase_opening hc] at hloading
    cases hloading

/-- The callers after one of them has moved. -/
theorem getElem?_move {j : Nat} {d : Caller} (hc : f.callers[i]? = some c)
    (hd : (f.callers.set i ⟨c.identifier, phase⟩)[j]? = some d) :
    (j = i ∧ d = ⟨c.identifier, phase⟩) ∨ (j ≠ i ∧ f.callers[j]? = some d) := by
  rw [List.getElem?_set] at hd
  by_cases hij : i = j
  · have hlt : i < f.callers.length := (List.getElem?_eq_some_iff.mp hc).1
    rw [if_pos hij, if_pos hlt] at hd
    exact Or.inl ⟨hij.symm, (Option.some.inj hd).symm⟩
  · rw [if_neg hij] at hd
    exact Or.inr ⟨Ne.symm hij, hd⟩

/-- A caller that loads after its move has just found the slot empty and idle. -/
theorem Move.loading_cases (h : Move f result c phase cache) {s : Nat} (hs : phase = .loading s) :
    f.busy s = false ∧ f.cache.content? s = none ∧ cache = f.cache := by
  cases h with
  | enter hphase hcontent hbusy =>
      cases hs
      exact ⟨hbusy, hcontent, rfl⟩
  | _ => cases hs

/-- Nobody loads into an idle slot. -/
theorem not_loading_of_busy_eq_false {s : Nat} (hbusy : f.busy s = false)
    (hc : f.callers[i]? = some c) : c.phase ≠ .loading s := by
  intro hloading
  rw [busy, List.any_eq_false] at hbusy
  have hidle := hbusy c (List.mem_of_getElem? hc)
  simp [hloading] at hidle

/-- A slot that is in use after a step was in use before, by the same identifier, or is new. -/
theorem knows_step (hc : f.callers[i]? = some c) {identifier : String} {s : Nat}
    (h : (f.step i result).Knows identifier s) :
    f.Knows identifier s ∨
      (identifier = c.identifier ∧ s = f.cache.made ∧
        (f.step i result).cache.made = f.cache.made + 1 ∧
        (f.step i result).cache.find? identifier = some s) := by
  obtain ⟨phase, cache, hmove, hcache, hcallers⟩ := step_move hc result
  rcases h with hfind | ⟨j, d, hd, hidentifier, hslot⟩
  · rw [hcache] at hfind ⊢
    rcases hmove.find?_cases identifier with
      hsame | ⟨hown, -, hnew, hmade⟩ | ⟨slot, e, -, -, -, -, hgone⟩
    · exact Or.inl (Or.inl (hsame ▸ hfind))
    · obtain rfl := Option.some.inj (hnew.symm.trans hfind)
      exact Or.inr ⟨hown, rfl, hmade, hnew⟩
    · rw [hgone] at hfind
      cases hfind
  · rw [hcallers] at hd
    rcases getElem?_move hc hd with ⟨-, rfl⟩ | ⟨-, hd⟩
    · subst hidentifier
      rw [hcache]
      rcases hmove.slot?_cases hslot with hheld | hfind | ⟨hs, hmade, hnew⟩
      · exact Or.inl (Or.inr ⟨i, c, hc, rfl, hheld⟩)
      · exact Or.inl (Or.inl hfind)
      · exact Or.inr ⟨rfl, hs, hmade, hnew⟩
    · exact Or.inl (Or.inr ⟨j, d, hd, hidentifier, hslot⟩)

/-- A caller that loads after a step has just found its slot empty and idle, or has loaded before
and is not the one that moved. -/
theorem loading_step (hc : f.callers[i]? = some c) {j s : Nat} {d : Caller}
    (hd : (f.step i result).callers[j]? = some d) (hloading : d.phase = .loading s) :
    (j = i ∧ f.busy s = false ∧ f.cache.content? s = none ∧
        (f.step i result).cache = f.cache) ∨
      (j ≠ i ∧ f.callers[j]? = some d) := by
  obtain ⟨phase, cache, hmove, hcache, hcallers⟩ := step_move hc result
  rw [hcallers] at hd
  rcases getElem?_move hc hd with ⟨hj, rfl⟩ | ⟨hj, hd⟩
  · obtain ⟨hbusy, hempty, hsame⟩ := hmove.loading_cases hloading
    exact Or.inl ⟨hj, hbusy, hempty, hcache.trans hsame⟩
  · exact Or.inr ⟨hj, hd⟩

/-- What a slot has after a step it had before, or the caller that moved was loading into it. -/
theorem content?_step (hc : f.callers[i]? = some c) {s : Nat} {l : Loaded}
    (hcontent : (f.step i result).cache.content? s = some l) :
    f.cache.content? s = some l ∨ c.phase = .loading s := by
  obtain ⟨phase, cache, hmove, hcache, -⟩ := step_move hc result
  rw [hcache] at hcontent
  rcases hmove.content?_cases with hsame | ⟨slot, tree, hloading, -, -, rfl⟩
  · exact Or.inl (hsame s ▸ hcontent)
  · rw [Cache.content?_fill] at hcontent
    split at hcontent
    · rename_i hs
      exact Or.inr (hs ▸ hloading)
    · exact Or.inl hcontent

theorem made_le_step (hc : f.callers[i]? = some c) :
    f.cache.made ≤ (f.step i result).cache.made := by
  obtain ⟨phase, cache, hmove, hcache, -⟩ := step_move hc result
  rw [hcache]
  exact hmove.made_le

theorem Sound.known_made_step (h : Sound f) (hc : f.callers[i]? = some c) {identifier : String}
    {s : Nat} (hknows : (f.step i result).Knows identifier s) :
    s < (f.step i result).cache.made := by
  rcases knows_step hc hknows with hold | ⟨-, rfl, hnew, -⟩
  · exact Nat.lt_of_lt_of_le (h.known_made hold) (made_le_step hc)
  · rw [hnew]
    exact Nat.lt_succ_self _

theorem Sound.content_made_step (h : Sound f) (hc : f.callers[i]? = some c) {s : Nat}
    {l : Loaded} (hcontent : (f.step i result).cache.content? s = some l) :
    s < (f.step i result).cache.made := by
  have hmade : s < f.cache.made := by
    rcases content?_step hc hcontent with hold | hloading
    · exact h.content_made hold
    · exact h.known_made (Or.inr ⟨i, c, hc, rfl, by rw [hloading, Phase.slot?]⟩)
  exact Nat.lt_of_lt_of_le hmade (made_le_step hc)

/-- A slot that was made in the step is in use by the caller that moved only. -/
theorem Sound.owner_step (h : Sound f) (hc : f.callers[i]? = some c) {identifier other : String}
    {s : Nat} (hknows : (f.step i result).Knows identifier s)
    (hother : (f.step i result).Knows other s) : identifier = other := by
  rcases knows_step hc hknows with hold | ⟨hown, hs, -⟩
  · rcases knows_step hc hother with hold' | ⟨-, hs', -⟩
    · exact h.owner hold hold'
    · exact absurd hs' (Nat.ne_of_lt (h.known_made hold))
  · rcases knows_step hc hother with hold' | ⟨hown', -, -⟩
    · exact absurd hs (Nat.ne_of_lt (h.known_made hold'))
    · rw [hown, hown']

theorem Sound.one_loader_step (h : Sound f) (hc : f.callers[i]? = some c) {j k s : Nat}
    {d e : Caller} (hd : (f.step i result).callers[j]? = some d)
    (he : (f.step i result).callers[k]? = some e) (hds : d.phase = .loading s)
    (hes : e.phase = .loading s) : j = k := by
  rcases loading_step hc hd hds with ⟨rfl, hbusy, -⟩ | ⟨-, hd'⟩
  · rcases loading_step hc he hes with ⟨rfl, -⟩ | ⟨-, he'⟩
    · rfl
    · exact absurd hes (not_loading_of_busy_eq_false hbusy he')
  · rcases loading_step hc he hes with ⟨rfl, hbusy, -⟩ | ⟨-, he'⟩
    · exact absurd hds (not_loading_of_busy_eq_false hbusy hd')
    · exact h.one_loader hd' he' hds hes

theorem Sound.loader_empty_step (h : Sound f) (hc : f.callers[i]? = some c) {j s : Nat}
    {d : Caller} (hd : (f.step i result).callers[j]? = some d) (hds : d.phase = .loading s) :
    (f.step i result).cache.content? s = none := by
  rcases loading_step hc hd hds with ⟨-, -, hempty, hsame⟩ | ⟨hj, hold⟩
  · rw [hsame, hempty]
  · cases hcontent : (f.step i result).cache.content? s with
    | none => rfl
    | some l =>
        -- nobody else can have filled the slot that `d` loads into
        rcases content?_step hc hcontent with hbefore | hloading
        · cases (h.loader_empty hold hds).symm.trans hbefore
        · exact absurd (h.one_loader hold hc hds hloading) hj

/-- **Soundness is kept** by every step. -/
theorem Sound.step (h : Sound f) (i : Nat) (result : LoadResult) : Sound (f.step i result) := by
  cases hc : f.callers[i]? with
  | none =>
      rw [step_of_none hc]
      exact h
  | some c =>
      exact {
        known_made := h.known_made_step hc
        content_made := h.content_made_step hc
        owner := h.owner_step hc
        one_loader := h.one_loader_step hc
        loader_empty := h.loader_empty_step hc }

/-- **Soundness is kept** by every schedule. -/
theorem Sound.run (h : Sound f) (schedule : List (Nat × LoadResult)) : Sound (f.run schedule) := by
  induction schedule generalizing f with
  | nil => exact h
  | cons entry rest ih => exact ih (h.step entry.1 entry.2)

/-- A slot with content keeps both its identifier and its content in a step. -/
theorem Sound.find?_step (h : Sound f) {identifier : String} {s : Nat} {l : Loaded}
    (hfind : f.cache.find? identifier = some s) (hcontent : f.cache.content? s = some l) (i : Nat)
    (result : LoadResult) :
    (f.step i result).cache.find? identifier = some s ∧
      (f.step i result).cache.content? s = some l := by
  cases hc : f.callers[i]? with
  | none =>
      rw [step_of_none hc]
      exact ⟨hfind, hcontent⟩
  | some c =>
      obtain ⟨phase, cache, hmove, hcache, -⟩ := step_move hc result
      rw [hcache]
      constructor
      · rcases hmove.find?_cases identifier with
          hsame | ⟨-, hnone, -⟩ | ⟨slot, e, -, -, hfind', hempty, -⟩
        · rw [hsame, hfind]
        · rw [hnone] at hfind
          cases hfind
        · obtain rfl : slot = s := Option.some.inj (hfind'.symm.trans hfind)
          rw [hempty] at hcontent
          cases hcontent
      · rcases hmove.content?_cases with hsame | ⟨slot, tree, hloading, -, -, rfl⟩
        · rw [hsame, hcontent]
        · rw [Cache.content?_fill, if_neg, hcontent]
          rintro rfl
          rw [h.loader_empty hc hloading] at hcontent
          cases hcontent

/-- A tree that the cache has stays there in a step. -/
theorem Sound.tree?_step (h : Sound f) {identifier : String} {l : Loaded}
    (htree : f.cache.tree? identifier = some l) (i : Nat) (result : LoadResult) :
    (f.step i result).cache.tree? identifier = some l := by
  obtain ⟨s, hfind, hcontent⟩ := Cache.tree?_eq_some_iff.mp htree
  exact Cache.tree?_eq_some_iff.mpr ⟨s, h.find?_step hfind hcontent i result⟩

/-- **Trees stay.**  A tree that the cache has for an identifier stays there whatever happens. -/
theorem Sound.tree?_run (h : Sound f) {identifier : String} {l : Loaded}
    (htree : f.cache.tree? identifier = some l) (schedule : List (Nat × LoadResult)) :
    (f.run schedule).cache.tree? identifier = some l := by
  induction schedule generalizing f with
  | nil => exact htree
  | cons entry rest ih =>
      exact ih (h.step entry.1 entry.2) (h.tree?_step htree entry.1 entry.2)

end Flight

end SpotForecast
