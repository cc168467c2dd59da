import SpotForecast.Proofs.Tree.Moves

/-!
# When a tree is loaded once

`SingleFlight` asks that a tree is loaded once for all callers, that they all get the same
instance, and that the cache has it as soon as one of them has got it.  Not every schedule keeps to
this.  A caller whose load has failed takes the slot away if it is still empty, even if another
caller has begun to load into it again.  That load then fills a slot which no later caller finds,
and the next one loads the tree once more (`not_singleFlight_overtaken`).

The condition is `Homed`: every load that succeeds fills the slot that its identifier has at that
moment.

* `singleFlight_of_homed` and `homed_of_singleFlight` together say that a schedule keeps to the
  single flight of an identifier exactly if it is homed (`singleFlight_iff_homed`).
* `singleFlight_of_unfailing`: it does if no load of the identifier fails.
-/

namespace SpotForecast.Flight

variable {f : Flight} {identifier : String} {i : Nat} {c : Caller} {result : LoadResult}

/-- The slot into which a tree of an identifier is loaded in a step, if one is. -/
def landing? (f : Flight) (identifier : String) (i : Nat) (result : LoadResult) : Option Nat :=
  match f.callers[i]?, result with
  | some ⟨name, .loading slot⟩, .ok _ => if name = identifier then some slot else none
  | _, _ => none

/-- The slots into which trees of an identifier are loaded, one for each load that succeeds. -/
def landings (f : Flight) (identifier : String) : List (Nat × LoadResult) → List Nat
  | [] => []
  | (i, result) :: rest =>
    (f.landing? identifier i result).toList ++ (f.step i result).landings identifier rest

/-- Some caller of an identifier has got a tree. -/
def Answered (f : Flight) (identifier : String) (l : Loaded) : Prop :=
  ∃ i : Nat, f.callers[i]? = some ⟨identifier, .answered (.ok l)⟩

/-- A tree is loaded once for all callers of an identifier. -/
structure SingleFlight (f : Flight) (identifier : String) (schedule : List (Nat × LoadResult)) :
    Prop where
  one_load : (f.landings identifier schedule).length ≤ 1
  one_instance : ∀ l l', (f.run schedule).Answered identifier l →
    (f.run schedule).Answered identifier l' → l = l'
  /-- From the moment at which one of them has got it, the cache has it. -/
  contains_stays : ∀ before later rest l, schedule = before ++ later ++ rest →
    (f.run before).Answered identifier l →
    (f.run (before ++ later)).cache.contains identifier = true

/-- A condition holds of every step of a schedule. -/
def Always (f : Flight) (P : Flight → Nat → LoadResult → Prop)
    (schedule : List (Nat × LoadResult)) : Prop :=
  ∀ before i result after, schedule = before ++ (i, result) :: after → P (f.run before) i result

/-- A tree that lands in a step fills the slot that its identifier has. -/
def LandsHome (identifier : String) (f : Flight) (i : Nat) (result : LoadResult) : Prop :=
  ∀ slot, f.landing? identifier i result = some slot → f.cache.find? identifier = some slot

/-- Every load that succeeds fills the slot that its identifier has at that moment. -/
def Homed (f : Flight) (identifier : String) (schedule : List (Nat × LoadResult)) : Prop :=
  f.Always (LandsHome identifier) schedule

/-- A tree lands where a caller that loads has its load succeed. -/
theorem landing?_eq_some_iff {slot : Nat} :
    f.landing? identifier i result = some slot ↔
      f.callers[i]? = some ⟨identifier, .loading slot⟩ ∧ ∃ tree, result = .ok tree := by
  constructor
  · intro h
    unfold landing? at h
    split at h
    · rename_i name slot' tree hc
      split at h
      · rename_i hname
        cases h
        subst hname
        exact ⟨hc, tree, rfl⟩
      · cases h
    · cases h
  · rintro ⟨hc, tree, rfl⟩
    simp [landing?, hc]

/-- A schedule is run in parts. -/
theorem run_append (f : Flight) (before after : List (Nat × LoadResult)) :
    f.run (before ++ after) = (f.run before).run after := by
  induction before generalizing f with
  | nil => rfl
  | cons entry rest ih => exact ih (f.step entry.1 entry.2)

/-- The loads of a schedule are those of its parts. -/
theorem landings_append (f : Flight) (identifier : String)
    (before after : List (Nat × LoadResult)) :
    f.landings identifier (before ++ after) =
      f.landings identifier before ++ (f.run before).landings identifier after := by
  induction before generalizing f with
  | nil => rfl
  | cons entry rest ih =>
      obtain ⟨i, result⟩ := entry
      rw [List.cons_append, landings, landings, run, ih, List.append_assoc]

/-- What holds of every step holds of the first one and of every later one. -/
theorem Always.cons {P : Flight → Nat → LoadResult → Prop} {rest : List (Nat × LoadResult)}
    (h : f.Always P ((i, result) :: rest)) : P f i result ∧ (f.step i result).Always P rest := by
  constructor
  · exact h [] i result rest rfl
  · rintro before j other after rfl
    exact h ((i, result) :: before) j other after rfl

/-- What holds of every step holds of those at the beginning. -/
theorem Always.of_append {P : Flight → Nat → LoadResult → Prop}
    {before after : List (Nat × LoadResult)} (h : f.Always P (before ++ after)) :
    f.Always P before := by
  rintro before' i result after' rfl
  exact h before' i result (after' ++ after) (by simp)

/-- The state after a tree has landed. -/
theorem step_of_landing {slot : Nat} (hc : f.callers[i]? = some ⟨identifier, .loading slot⟩)
    (tree : DecisionTree) :
    (f.step i (.ok tree)).cache = (f.cache.fill slot tree).2 ∧
      (f.step i (.ok tree)).Answered identifier ⟨tree, f.cache.loaded⟩ := by
  have hlt : i < f.callers.length := (List.getElem?_eq_some_iff.mp hc).1
  have hstep : f.step i (.ok tree) = ⟨(f.cache.fill slot tree).2,
      f.callers.set i ⟨identifier, .answered (.ok ⟨tree, f.cache.loaded⟩)⟩, f.loads⟩ := by
    simp only [step, hc]
    rfl
  rw [hstep]
  exact ⟨rfl, i, List.getElem?_set_self hlt⟩

/-- Content in a slot of an identifier was there before a step or has landed in it. -/
theorem Sound.known_content_step (h : Sound f) {s : Nat} {l : Loaded}
    (hknows : (f.step i result).Knows identifier s)
    (hcontent : (f.step i result).cache.content? s = some l) :
    (f.Knows identifier s ∧ f.cache.content? s = some l) ∨
      f.landing? identifier i result = some s := by
  cases hc : f.callers[i]? with
  | none =>
      rw [step_of_none hc] at hknows hcontent
      exact Or.inl ⟨hknows, hcontent⟩
  | some c =>
      obtain ⟨phase, cache, hmove, hcache, -⟩ := step_move hc result
      rw [hcache] at hcontent
      rcases hmove.content?_cases with hsame | ⟨slot, tree, hloading, rfl, -, rfl⟩
      · rw [hsame] at hcontent
        rcases knows_step hc hknows with hold | ⟨-, rfl, -⟩
        · exact Or.inl ⟨hold, hcontent⟩
        · exact absurd (h.content_made hcontent) (Nat.lt_irrefl _)
      · have hholds : f.Knows c.identifier slot :=
          Or.inr ⟨i, c, hc, rfl, by rw [hloading, Phase.slot?]⟩
        rcases knows_step hc hknows with hold | ⟨-, rfl, hnew, -⟩
        · rw [Cache.content?_fill] at hcontent
          split at hcontent
          · rename_i hs
            subst hs
            obtain rfl := h.owner hold hholds
            refine Or.inr (landing?_eq_some_iff.mpr ⟨?_, tree, rfl⟩)
            rw [hc, ← hloading]
          · exact Or.inl ⟨hold, hcontent⟩
        · rw [hcache] at hnew
          exact absurd hnew (Nat.ne_of_lt (Nat.lt_succ_self _))

/-- A caller that has got a tree after a step had got it before, or saw it in its slot, or has
loaded it. -/
theorem answered_step {l : Loaded} (h : (f.step i result).Answered identifier l) :
    f.Answered identifier l ∨ (∃ s, f.Knows identifier s ∧ f.cache.content? s = some l) ∨
      ∃ s, f.landing? identifier i result = some s ∧
        (f.step i result).cache.content? s = some l := by
  cases hc : f.callers[i]? with
  | none =>
      rw [step_of_none hc] at h
      exact Or.inl h
  | some c =>
      obtain ⟨phase, cache, hmove, hcache, hcallers⟩ := step_move hc result
      obtain ⟨j, hj⟩ := h
      rw [hcallers] at hj
      rcases getElem?_move hc hj with ⟨-, hd⟩ | ⟨-, hd⟩
      · obtain ⟨rfl, rfl⟩ := Caller.mk.inj hd
        cases hmove with
        | @see slot l hphase hcontent =>
            refine Or.inr (Or.inl ⟨slot, Or.inr ⟨i, c, hc, rfl, ?_⟩, hcontent⟩)
            rw [hphase, Phase.slot?]
        | @land slot tree hphase hresult =>
            refine Or.inr (Or.inr ⟨slot, landing?_eq_some_iff.mpr ⟨?_, tree, hresult⟩, ?_⟩)
            · rw [hc, ← hphase]
            · rw [hcache, Cache.content?_fill, if_pos rfl]
        | rest hphase =>
            refine Or.inl ⟨i, ?_⟩
            rw [hc, ← hphase]
      · exact Or.inl ⟨j, hd⟩

/-- What holds of an identifier as long as all its loads land at home. -/
structure Settled (f : Flight) (identifier : String) : Prop where
  answered : ∀ {l}, f.Answered identifier l → f.cache.tree? identifier = some l
  /-- Of the slots in use, only that of the cache can have content. -/
  home : ∀ {s l}, f.Knows identifier s → f.cache.content? s = some l →
    f.cache.find? identifier = some s

/-- An opening is settled. -/
theorem settled_opening (identifiers : List String) (identifier : String) :
    (opening identifiers).Settled identifier := by
  constructor
  case answered =>
    rintro l ⟨i, hc⟩
    cases phase_opening hc
  case home =>
    intro s l _ hcontent
    cases hcontent

/-- A step that does not land elsewhere keeps things settled. -/
theorem Settled.step (hs : f.Settled identifier) (h : Sound f)
    (hhome : LandsHome identifier f i result) : (f.step i result).Settled identifier := by
  have hlanded : ∀ s, f.landing? identifier i result = some s →
      (f.step i result).cache.find? identifier = some s := by
    intro s hland
    obtain ⟨hc, tree, rfl⟩ := landing?_eq_some_iff.mp hland
    rw [(step_of_landing hc tree).1]
    exact hhome s hland
  constructor
  case answered =>
    intro l hl
    rcases answered_step hl with hold | ⟨s, hknows, hcontent⟩ | ⟨s, hland, hcontent⟩
    · exact h.tree?_step (hs.answered hold) i result
    · have htree := Cache.tree?_eq_some_iff.mpr ⟨s, hs.home hknows hcontent, hcontent⟩
      exact h.tree?_step htree i result
    · exact Cache.tree?_eq_some_iff.mpr ⟨s, hlanded s hland, hcontent⟩
  case home =>
    intro s l hknows hcontent
    rcases h.known_content_step hknows hcontent with ⟨hold, hcontent'⟩ | hland
    · exact (h.find?_step (hs.home hold hcontent') hcontent' i result).1
    · exact hlanded s hland

/-- **Homed schedules** keep things settled. -/
theorem Settled.run (hs : f.Settled identifier) (h : Sound f)
    {schedule : List (Nat × LoadResult)} (hhomed : f.Homed identifier schedule) :
    (f.run schedule).Settled identifier := by
  induction schedule generalizing f with
  | nil => exact hs
  | cons entry rest ih =>
      obtain ⟨hhome, hrest⟩ := Always.cons hhomed
      exact ih (hs.step h hhome) (h.step entry.1 entry.2) hrest

/-- Where the cache has a tree, a homed schedule loads none. -/
theorem landings_eq_nil (h : Sound f) {l : Loaded}
    (htree : f.cache.tree? identifier = some l) {schedule : List (Nat × LoadResult)}
    (hhomed : f.Homed identifier schedule) : f.landings identifier schedule = [] := by
  induction schedule generalizing f with
  | nil => rfl
  | cons entry rest ih =>
      obtain ⟨i, result⟩ := entry
      obtain ⟨hhome, hrest⟩ := Always.cons hhomed
      have hnone : f.landing? identifier i result = none := by
        cases hland : f.landing? identifier i result with
        | none => rfl
        | some slot =>
            -- the slot of the identifier would be empty, because somebody loads into it
            obtain ⟨s, hfind, hcontent⟩ := Cache.tree?_eq_some_iff.mp htree
            obtain rfl := Option.some.inj (hfind.symm.trans (hhome slot hland))
            rw [h.loader_empty (landing?_eq_some_iff.mp hland).1 rfl] at hcontent
            cases hcontent
      rw [landings, hnone, ih (h.step i result) (h.tree?_step htree i result) hrest]
      rfl

/-- A homed schedule loads at most one tree of an identifier. -/
theorem length_landings_le_one (h : Sound f) {schedule : List (Nat × LoadResult)}
    (hhomed : f.Homed identifier schedule) : (f.landings identifier schedule).length ≤ 1 := by
  induction schedule generalizing f with
  | nil => exact Nat.zero_le 1
  | cons entry rest ih =>
      obtain ⟨i, result⟩ := entry
      obtain ⟨hhome, hrest⟩ := Always.cons hhomed
      have hsound := h.step i result
      rw [landings]
      cases hland : f.landing? identifier i result with
      | none => exact ih hsound hrest
      | some slot =>
          obtain ⟨hc, tree, rfl⟩ := landing?_eq_some_iff.mp hland
          have htree : (f.step i (.ok tree)).cache.tree? identifier =
              some ⟨tree, f.cache.loaded⟩ := by
            rw [(step_of_landing hc tree).1, Cache.tree?_eq_some_iff]
            refine ⟨slot, hhome slot hland, ?_⟩
            rw [Cache.content?_fill, if_pos rfl]
          rw [landings_eq_nil hsound htree hrest]
          exact Nat.le_refl 1

/-- **Enough.**  A homed schedule of callers that all arrive at an empty cache keeps to the single
flight. -/
theorem singleFlight_of_homed {identifiers : List String} {schedule : List (Nat × LoadResult)}
    (h : (opening identifiers).Homed identifier schedule) :
    (opening identifiers).SingleFlight identifier schedule := by
  have hsound := sound_opening identifiers
  have hsettled := settled_opening identifiers identifier
  constructor
  case one_load => exact length_landings_le_one hsound h
  case one_instance =>
    intro l l' hl hl'
    have hend := hsettled.run hsound h
    exact Option.some.inj ((hend.answered hl).symm.trans (hend.answered hl'))
  case contains_stays =>
    rintro before later rest l rfl hl
    rw [List.append_assoc] at h
    have htree := (hsettled.run hsound (Always.of_append h)).answered hl
    rw [run_append, Cache.contains, (hsound.run before).tree?_run htree later]
    rfl

/-- No slot of an identifier has content. -/
def Fresh (f : Flight) (identifier : String) : Prop :=
  ∀ s, f.Knows identifier s → f.cache.content? s = none

/-- Without loads of an identifier, its slots stay empty. -/
theorem Fresh.run (hf : f.Fresh identifier) (h : Sound f) {schedule : List (Nat × LoadResult)}
    (hnone : f.landings identifier schedule = []) : (f.run schedule).Fresh identifier := by
  induction schedule generalizing f with
  | nil => exact hf
  | cons entry rest ih =>
      obtain ⟨i, result⟩ := entry
      obtain ⟨hfirst, hrest⟩ := List.append_eq_nil_iff.mp hnone
      refine ih ?_ (h.step i result) hrest
      intro s hknows
      cases hcontent : (f.step i result).cache.content? s with
      | none => rfl
      | some l =>
          rcases h.known_content_step hknows hcontent with ⟨hold, hcontent'⟩ | hland
          · rw [hf s hold] at hcontent'
            cases hcontent'
          · rw [hland] at hfirst
            cases hfirst

/-- Where the cache has a tree of an identifier, one was loaded. -/
theorem landings_ne_nil {identifiers : List String} {schedule : List (Nat × LoadResult)}
    {l : Loaded} (htree : ((opening identifiers).run schedule).cache.tree? identifier = some l) :
    (opening identifiers).landings identifier schedule ≠ [] := by
  intro hnone
  have hfresh : (opening identifiers).Fresh identifier := fun s _ => rfl
  obtain ⟨s, hfind, hcontent⟩ := Cache.tree?_eq_some_iff.mp htree
  rw [hfresh.run (sound_opening identifiers) hnone s (Or.inl hfind)] at hcontent
  cases hcontent

/-- **Needed.**  A schedule that keeps to the single flight is homed: if a load landed elsewhere,
either the cache would not have the tree that its caller has got, or it would have one from an
earlier load. -/
theorem homed_of_singleFlight {identifiers : List String} {schedule : List (Nat × LoadResult)}
    (h : (opening identifiers).SingleFlight identifier schedule) :
    (opening identifiers).Homed identifier schedule := by
  rintro before i result after rfl slot hland
  obtain ⟨hc, tree, rfl⟩ := landing?_eq_some_iff.mp hland
  obtain ⟨hcache, hanswered⟩ := step_of_landing hc tree
  have hrun : (opening identifiers).run (before ++ [(i, .ok tree)]) =
      ((opening identifiers).run before).step i (.ok tree) := by
    rw [run_append]
    rfl
  have hcontains := h.contains_stays (before ++ [(i, .ok tree)]) [] after _ (by simp)
    (hrun ▸ hanswered)
  rw [List.append_nil, hrun, hcache] at hcontains
  obtain ⟨l, htree⟩ := Option.isSome_iff_exists.mp hcontains
  obtain ⟨s, hfind, hcontent⟩ := Cache.tree?_eq_some_iff.mp htree
  rw [Cache.content?_fill] at hcontent
  split at hcontent
  · rename_i hs
    subst hs
    exact hfind
  · -- the cache had a tree before, so this load is the second one
    have hearlier := landings_ne_nil (Cache.tree?_eq_some_iff.mpr ⟨s, hfind, hcontent⟩)
    have hpositive := List.length_pos_iff.mpr hearlier
    have hone := h.one_load
    rw [landings_append, landings, hland] at hone
    simp only [Option.toList_some, List.length_append, List.length_singleton] at hone
    omega

/-- **The single flight of an identifier.**  Whoever the callers are and in whatever order they
take their steps, its tree is loaded once, all its callers get that instance and the cache has it
from then on, exactly if every load that succeeds fills the slot that the identifier has at that
moment. -/
theorem singleFlight_iff_homed (identifiers : List String) (identifier : String)
    (schedule : List (Nat × LoadResult)) :
    (opening identifiers).SingleFlight identifier schedule ↔
      (opening identifiers).Homed identifier schedule :=
  ⟨homed_of_singleFlight, singleFlight_of_homed⟩

/-- A tree for three callers. -/
def overtakenTree : DecisionTree := ⟨"mean", .leaf 1.0⟩

/-- The first caller fails and takes the slot away after the second has begun to load into it.  The
third one makes a new slot, and then both loads succeed. -/
def overtaken : List (Nat × LoadResult) :=
  [(0, .ok overtakenTree), (0, .ok overtakenTree), (1, .ok overtakenTree), (0, .ok overtakenTree),
    (0, .error (.invalidTree "mean")), (1, .ok overtakenTree), (0, .ok overtakenTree),
    (2, .ok overtakenTree), (2, .ok overtakenTree), (2, .ok overtakenTree),
    (1, .ok overtakenTree), (2, .ok overtakenTree)]

/-- Three callers that overtake each other load a tree twice, into two slots. -/
theorem not_singleFlight_overtaken :
    ¬(opening ["mean", "mean", "mean"]).SingleFlight "mean" overtaken := by
  intro h
  have hlandings : (opening ["mean", "mean", "mean"]).landings "mean" overtaken = [0, 1] := by
    decide +kernel
  have hone := h.one_load
  rw [hlandings] at hone
  exact absurd hone (by decide)

/-- A load of an identifier does not fail in a step. -/
def LoadsWell (identifier : String) (f : Flight) (i : Nat) (result : LoadResult) : Prop :=
  ∀ slot, f.callers[i]? = some ⟨identifier, .loading slot⟩ → ∃ tree, result = .ok tree

/-- All slots in use of an identifier are that of the cache, and nobody is about to take it away. -/
structure Steady (f : Flight) (identifier : String) : Prop where
  unfailed : ∀ (i slot : Nat) (e : ForecastFault),
    f.callers[i]? ≠ some ⟨identifier, .failing slot e⟩
  home : ∀ {s}, f.Knows identifier s → f.cache.find? identifier = some s

/-- An opening is steady. -/
theorem steady_opening (identifiers : List String) (identifier : String) :
    (opening identifiers).Steady identifier := by
  constructor
  case unfailed =>
    intro i slot e hc
    cases phase_opening hc
  case home =>
    rintro s (hfind | ⟨i, c, hc, -, hslot⟩)
    · exact hfind
    · rw [phase_opening hc] at hslot
      cases hslot

/-- Nobody is about to take the slot away after a step in which no load fails. -/
theorem Steady.unfailed_step (hs : f.Steady identifier) (hc : f.callers[i]? = some c)
    (hwell : LoadsWell identifier f i result) (j slot : Nat) (e : ForecastFault) :
    (f.step i result).callers[j]? ≠ some ⟨identifier, .failing slot e⟩ := by
  intro hj
  obtain ⟨phase, cache, hmove, -, hcallers⟩ := step_move hc result
  rw [hcallers] at hj
  rcases getElem?_move hc hj with ⟨-, hd⟩ | ⟨-, hd⟩
  · obtain ⟨rfl, rfl⟩ := Caller.mk.inj hd
    cases hmove with
    | fail hphase hresult =>
        have hloading : f.callers[i]? = some ⟨c.identifier, .loading slot⟩ := by
          rw [hc, ← hphase]
        obtain ⟨tree, htree⟩ := hwell slot hloading
        rw [htree] at hresult
        cases hresult
  · exact hs.unfailed j slot e hd

/-- The slot that the cache has for the identifier stays there in a step. -/
theorem Steady.find?_step (hs : f.Steady identifier) (hc : f.callers[i]? = some c) {s : Nat}
    (hfind : f.cache.find? identifier = some s) :
    (f.step i result).cache.find? identifier = some s := by
  obtain ⟨phase, cache, hmove, hcache, -⟩ := step_move hc result
  rw [hcache]
  rcases hmove.find?_cases identifier with
    hsame | ⟨-, hnone, -⟩ | ⟨slot, e, rfl, hfailing, -⟩
  · exact hsame.trans hfind
  · cases hnone.symm.trans hfind
  · have hbefore : f.callers[i]? = some ⟨c.identifier, .failing slot e⟩ := by
      rw [hc, ← hfailing]
    exact absurd hbefore (hs.unfailed i slot e)

theorem Steady.home_step (hs : f.Steady identifier) (hc : f.callers[i]? = some c) {s : Nat}
    (hknows : (f.step i result).Knows identifier s) :
    (f.step i result).cache.find? identifier = some s := by
  rcases knows_step hc hknows with hold | ⟨-, -, -, hnew⟩
  · exact hs.find?_step hc (hs.home hold)
  · exact hnew

/-- A step in which no load of the identifier fails keeps things steady. -/
theorem Steady.step (hs : f.Steady identifier) (hwell : LoadsWell identifier f i result) :
    (f.step i result).Steady identifier := by
  cases hc : f.callers[i]? with
  | none =>
      rw [step_of_none hc]
      exact hs
  | some c => exact ⟨hs.unfailed_step hc hwell, hs.home_step hc⟩

/-- Schedules in which no load of the identifier fails keep things steady. -/
theorem Steady.run (hs : f.Steady identifier) {schedule : List (Nat × LoadResult)}
    (hwell : f.Always (LoadsWell identifier) schedule) : (f.run schedule).Steady identifier := by
  induction schedule generalizing f with
  | nil => exact hs
  | cons entry rest ih =>
      obtain ⟨hfirst, hrest⟩ := hwell.cons
      exact ih (hs.step hfirst) hrest

/-- **Without failures** every schedule keeps to the single flight. -/
theorem singleFlight_of_unfailing {identifiers : List String}
    {schedule : List (Nat × LoadResult)}
    (hwell : (opening identifiers).Always (LoadsWell identifier) schedule) :
    (opening identifiers).SingleFlight identifier schedule := by
  apply singleFlight_of_homed
  rintro before i result after rfl slot hland
  have hsteady := (steady_opening identifiers identifier).run hwell.of_append
  have hc := (landing?_eq_some_iff.mp hland).1
  exact hsteady.home (Or.inr ⟨i, _, hc, rfl, rfl⟩)

end SpotForecast.Flight
