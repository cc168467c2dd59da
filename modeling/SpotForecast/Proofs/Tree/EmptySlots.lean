import Mathlib.Data.List.Nodup
import Mathlib.Data.List.Perm.Subperm
import SpotForecast.Proofs.Tree.Moves

/-!
# Empty slots

A slot is made empty and filled later, or taken away after a failed load.  In between, callers whose
answers are still to come hold it.  `Tidy` says that this accounts for every empty slot the cache
has: an identifier has one entry, and if its slot is empty, some caller of that identifier holds it.
A caller that is answered leaves a slot with content behind, or one that the cache has no longer
(`Move.slot?_kept`), even if other callers have replaced it or load into it meanwhile.

`accounted_run` draws the conclusions for callers that arrive at an empty cache and take their steps
in any order; whoever asks again counts as another caller that begins later.  There are never more
entries than trees and callers with a slot, when all callers are at rest every entry has its tree,
and the cache never loses a tree.
-/

namespace SpotForecast

namespace Cache

variable {c : Cache} {identifier : String} {slot : Nat}

/-- Every identifier has at most one entry. -/
def OneEntry (c : Cache) : Prop :=
  (c.slots.map Prod.fst).Nodup

/-- With one entry for each identifier, what is in an entry is found. -/
theorem find?_of_mem_slots (hc : c.OneEntry) (h : (identifier, slot) ∈ c.slots) :
    c.find? identifier = some slot := by
  obtain ⟨before, after, heq⟩ := List.append_of_mem h
  refine List.lookup_eq_some_iff.mpr ⟨before, after, heq, ?_⟩
  intro entry hentry
  rw [OneEntry, heq, List.map_append, List.nodup_append] at hc
  have hne := hc.2.2 entry.1 (List.mem_map_of_mem hentry) identifier (by simp)
  simpa using hne.symm

/-- Without a slot there is no entry. -/
theorem notMem_of_find?_eq_none (h : c.find? identifier = none) :
    identifier ∉ c.slots.map Prod.fst := by
  intro hmem
  obtain ⟨entry, hentry, rfl⟩ := List.mem_map.mp hmem
  have hne := List.lookup_eq_none_iff.mp h entry hentry
  simp at hne

theorem OneEntry.claim (hc : c.OneEntry) (h : c.find? identifier = none) :
    (c.claim identifier).2.OneEntry := by
  rw [claim_of_none h, OneEntry, List.map_cons, List.nodup_cons]
  exact ⟨notMem_of_find?_eq_none h, hc⟩

theorem OneEntry.release (hc : c.OneEntry) (identifier : String) (slot : Nat) :
    (c.release identifier slot).OneEntry := by
  rw [Cache.release]
  split
  · exact hc.sublist (List.filter_sublist.map Prod.fst)
  · exact hc

/-- The number of entries with content is that of the trees, the others are empty. -/
theorem length_slots (c : Cache) : c.slots.length =
    c.size + (c.slots.filter (fun entry => (c.content? entry.2).isNone)).length := by
  have hempty : ∀ entry ∈ c.slots, (c.content? entry.2).isNone =
      !(c.content? entry.2).isSome := by
    intro entry _
    cases c.content? entry.2 <;> rfl
  rw [size, List.filter_congr hempty, List.length_eq_length_filter_add]

end Cache

namespace Flight

variable {f : Flight} {result : LoadResult} {c : Caller} {i s : Nat} {phase : Phase}
  {cache : Cache} {identifier : String}

/-- Some caller of an identifier holds a slot. -/
def Holds (f : Flight) (identifier : String) (s : Nat) : Prop :=
  ∃ (i : Nat) (c : Caller), f.callers[i]? = some c ∧ c.identifier = identifier ∧
    c.phase.slot? = some s

/-- **Kept slots.**  A caller keeps its slot in a move, unless the slot has content after it or is
not that of the caller's identifier. -/
theorem Move.slot?_kept (h : Move f result c phase cache) (hs : c.phase.slot? = some s) :
    phase.slot? = some s ∨ (∃ l, cache.content? s = some l) ∨
      cache.find? c.identifier ≠ some s := by
  cases h with
  | find hphase | miss hphase | join hphase | make hphase | rest hphase =>
      rw [hphase] at hs
      cases hs
  | see hphase hcontent =>
      rw [hphase] at hs
      cases hs
      exact Or.inr (Or.inl ⟨_, hcontent⟩)
  | @land slot tree hphase hresult =>
      rw [hphase] at hs
      cases hs
      refine Or.inr (Or.inl ⟨⟨tree, f.cache.loaded⟩, ?_⟩)
      rw [Cache.content?_fill, if_pos rfl]
  | wait hphase | enter hphase | fail hphase =>
      rw [hphase] at hs
      exact Or.inl hs
  | @leave slot e hphase =>
      rw [hphase] at hs
      cases hs
      rw [Cache.find?_release, Cache.content?_release]
      by_cases hfind : f.cache.find? c.identifier = some s
      · cases hcontent : f.cache.content? s with
        | some l => exact Or.inr (Or.inl ⟨l, rfl⟩)
        | none =>
            rw [if_pos ⟨rfl, hfind, rfl⟩]
            exact Or.inr (Or.inr (by simp))
      · rw [if_neg (fun hstale => hfind hstale.2.1)]
        exact Or.inr (Or.inr hfind)

/-- A slot that an identifier has after a move it had before, or its caller has just made it. -/
theorem Move.find?_made (h : Move f result c phase cache)
    (hfind : cache.find? identifier = some s) :
    f.cache.find? identifier = some s ∨ (identifier = c.identifier ∧ phase.slot? = some s) := by
  cases h with
  | make hphase hnone =>
      rw [Cache.find?_claim hnone] at hfind
      split at hfind
      · rename_i hidentifier
        exact Or.inr ⟨hidentifier, hfind⟩
      · exact Or.inl hfind
  | leave hphase =>
      rw [Cache.find?_release] at hfind
      split at hfind
      · cases hfind
      · exact Or.inl hfind
  | _ => exact Or.inl hfind

/-- No move empties a slot. -/
theorem Move.content?_none (h : Move f result c phase cache) (hempty : cache.content? s = none) :
    f.cache.content? s = none := by
  rcases h.content?_cases with hsame | ⟨slot, tree, -, -, -, rfl⟩
  · rw [← hsame s, hempty]
  · rw [Cache.content?_fill] at hempty
    split at hempty
    · cases hempty
    · exact hempty

theorem Move.oneEntry (h : Move f result c phase cache) (hone : f.cache.OneEntry) :
    cache.OneEntry := by
  cases h with
  | make hphase hfind => exact hone.claim hfind
  | leave hphase => exact hone.release _ _
  | _ => exact hone

/-- Every empty slot of the cache is accounted for by a caller. -/
structure Tidy (f : Flight) : Prop where
  one_entry : f.cache.OneEntry
  /-- If the slot of an identifier is empty, a caller of that identifier holds it. -/
  held : ∀ {identifier s}, f.cache.find? identifier = some s → f.cache.content? s = none →
    f.Holds identifier s

theorem tidy_opening (identifiers : List String) : (opening identifiers).Tidy := by
  constructor
  case one_entry => exact List.nodup_nil
  case held =>
    intro identifier s hfind
    cases hfind

/-- Whoever holds an empty slot still holds it after a step, or the slot is lost to it. -/
theorem holds_step (hc : f.callers[i]? = some c) (hheld : f.Holds identifier s)
    (hfind : (f.step i result).cache.find? identifier = some s)
    (hempty : (f.step i result).cache.content? s = none) :
    (f.step i result).Holds identifier s := by
  obtain ⟨phase, cache, hmove, hcache, hcallers⟩ := step_move hc result
  obtain ⟨j, d, hd, rfl, hslot⟩ := hheld
  by_cases hij : i = j
  · subst hij
    obtain rfl := Option.some.inj (hc.symm.trans hd)
    have hlt : i < f.callers.length := (List.getElem?_eq_some_iff.mp hc).1
    have hmoved : (f.step i result).callers[i]? = some ⟨c.identifier, phase⟩ := by
      rw [hcallers, List.getElem?_set_self hlt]
    rw [hcache] at hfind hempty
    rcases hmove.slot?_kept hslot with hkept | ⟨l, hcontent⟩ | hlost
    · exact ⟨i, _, hmoved, rfl, hkept⟩
    · cases hempty.symm.trans hcontent
    · exact absurd hfind hlost
  · refine ⟨j, d, ?_, rfl, hslot⟩
    rw [hcallers, List.getElem?_set_ne hij, hd]

theorem Tidy.held_step (h : f.Tidy) (hc : f.callers[i]? = some c)
    (hfind : (f.step i result).cache.find? identifier = some s)
    (hempty : (f.step i result).cache.content? s = none) :
    (f.step i result).Holds identifier s := by
  obtain ⟨phase, cache, hmove, hcache, hcallers⟩ := step_move hc result
  rw [hcache] at hfind hempty
  rcases hmove.find?_made hfind with hold | ⟨rfl, hmade⟩
  · have hheld := h.held hold (hmove.content?_none hempty)
    rw [← hcache] at hfind hempty
    exact holds_step hc hheld hfind hempty
  · have hlt : i < f.callers.length := (List.getElem?_eq_some_iff.mp hc).1
    refine ⟨i, ⟨c.identifier, phase⟩, ?_, rfl, hmade⟩
    rw [hcallers, List.getElem?_set_self hlt]

theorem Tidy.one_entry_step (h : f.Tidy) (hc : f.callers[i]? = some c) :
    (f.step i result).cache.OneEntry := by
  obtain ⟨phase, cache, hmove, hcache, -⟩ := step_move hc result
  rw [hcache]
  exact hmove.oneEntry h.one_entry

/-- **Tidiness is kept** by every step. -/
theorem Tidy.step (h : f.Tidy) (i : Nat) (result : LoadResult) : (f.step i result).Tidy := by
  cases hc : f.callers[i]? with
  | none =>
      rw [step_of_none hc]
      exact h
  | some c => exact ⟨h.one_entry_step hc, h.held_step hc⟩

/-- **Tidiness is kept** by every schedule. -/
theorem Tidy.run (h : f.Tidy) (schedule : List (Nat × LoadResult)) : (f.run schedule).Tidy := by
  induction schedule generalizing f with
  | nil => exact h
  | cons entry rest ih => exact ih (h.step entry.1 entry.2)

/-- The callers that hold a slot, all of which are still to be answered. -/
def holders (f : Flight) : List Caller :=
  f.callers.filter (fun c => c.phase.slot?.isSome)

/-- No caller is on its way: each of them is still to begin or has its answer. -/
def AtRest (f : Flight) : Prop :=
  ∀ c ∈ f.callers, c.phase = .arriving ∨ ∃ r, c.phase = .answered r

theorem AtRest.holders_eq_nil (h : f.AtRest) : f.holders = [] := by
  rw [holders, List.filter_eq_nil_iff]
  intro c hc
  rcases h c hc with hphase | ⟨r, hphase⟩ <;> simp [hphase, Phase.slot?]

/-- **Counting.**  Empty entries belong to different identifiers, each of which has a caller that
holds a slot; so there are no more of them than such callers. -/
theorem Tidy.length_slots_le (h : f.Tidy) :
    f.cache.slots.length ≤ f.cache.size + f.holders.length := by
  have hdistinct : ((f.cache.slots.filter
      (fun entry => (f.cache.content? entry.2).isNone)).map Prod.fst).Nodup :=
    h.one_entry.sublist (List.filter_sublist.map Prod.fst)
  have hheld : (f.cache.slots.filter
      (fun entry => (f.cache.content? entry.2).isNone)).map Prod.fst ⊆
        f.holders.map Caller.identifier := by
    intro identifier hidentifier
    obtain ⟨⟨identifier, s⟩, hentry, rfl⟩ := List.mem_map.mp hidentifier
    obtain ⟨hmem, hempty⟩ := List.mem_filter.mp hentry
    obtain ⟨i, c, hc, hname, hslot⟩ :=
      h.held (Cache.find?_of_mem_slots h.one_entry hmem) (by simpa using hempty)
    refine List.mem_map.mpr ⟨c, List.mem_filter.mpr ⟨List.mem_of_getElem? hc, ?_⟩, hname⟩
    rw [hslot]
    rfl
  have hle := (List.subperm_of_subset hdistinct hheld).length_le
  rw [List.length_map, List.length_map] at hle
  rw [Cache.length_slots]
  omega

/-- What can be said of the entries of a cache at any moment. -/
structure Accounted (f : Flight) : Prop where
  /-- An empty slot is held by a caller of its identifier, and that one waits, loads or has failed;
  it is not answered yet. -/
  empty_held : ∀ identifier s, (identifier, s) ∈ f.cache.slots → f.cache.content? s = none →
    ∃ c ∈ f.callers, c.identifier = identifier ∧
      (c.phase = .waiting s ∨ c.phase = .loading s ∨ ∃ e, c.phase = .failing s e)
  entries_le : f.cache.slots.length ≤ f.cache.size + f.holders.length
  full_at_rest : f.AtRest → ∀ entry ∈ f.cache.slots, f.cache.contains entry.1 = true
  size_at_rest : f.AtRest → f.cache.size = f.cache.slots.length
  /-- What the cache contains once it contains ever after. -/
  contains_stays : ∀ later identifier, f.cache.contains identifier = true →
    (f.run later).cache.contains identifier = true

theorem slot?_eq_some_iff {p : Phase} :
    p.slot? = some s ↔ p = .waiting s ∨ p = .loading s ∨ ∃ e, p = .failing s e := by
  cases p <;> simp [Phase.slot?]

/-- When all callers are at rest, nobody holds a slot, so none is empty. -/
theorem Tidy.contains_of_atRest (h : f.Tidy) (hrest : f.AtRest)
    (hmem : (identifier, s) ∈ f.cache.slots) : f.cache.contains identifier = true := by
  have hfind := Cache.find?_of_mem_slots h.one_entry hmem
  cases hcontent : f.cache.content? s with
  | some l =>
      have htree := Cache.tree?_eq_some_iff.mpr ⟨s, hfind, hcontent⟩
      rw [Cache.contains, htree]
      rfl
  | none =>
      obtain ⟨i, c, hc, -, hslot⟩ := h.held hfind hcontent
      have hholds : c ∈ f.holders :=
        List.mem_filter.mpr ⟨List.mem_of_getElem? hc, by simp [hslot]⟩
      rw [hrest.holders_eq_nil] at hholds
      cases hholds

theorem Tidy.size_of_atRest (h : f.Tidy) (hrest : f.AtRest) :
    f.cache.size = f.cache.slots.length := by
  have hle := h.length_slots_le
  have hsize := f.cache.length_slots
  rw [hrest.holders_eq_nil, List.length_nil] at hle
  omega

/-- **The entries of a cache.**  Whoever the callers are and in whatever order they take their
steps, every empty slot is held by a caller that is still to be answered, and no tree is lost. -/
theorem accounted_run (identifiers : List String) (schedule : List (Nat × LoadResult)) :
    ((opening identifiers).run schedule).Accounted := by
  have htidy := (tidy_opening identifiers).run schedule
  have hsound := (sound_opening identifiers).run schedule
  generalize (opening identifiers).run schedule = f at htidy hsound
  constructor
  case empty_held =>
    intro identifier s hmem hempty
    obtain ⟨i, c, hc, hname, hslot⟩ :=
      htidy.held (Cache.find?_of_mem_slots htidy.one_entry hmem) hempty
    exact ⟨c, List.mem_of_getElem? hc, hname, slot?_eq_some_iff.mp hslot⟩
  case entries_le => exact htidy.length_slots_le
  case full_at_rest => exact fun hrest _ hmem => htidy.contains_of_atRest hrest hmem
  case size_at_rest => exact htidy.size_of_atRest
  case contains_stays =>
    intro later identifier hcontains
    obtain ⟨l, htree⟩ := Option.isSome_iff_exists.mp hcontains
    rw [Cache.contains, hsound.tree?_run htree later]
    rfl

end Flight

end SpotForecast
