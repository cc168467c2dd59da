import Mathlib.Data.Finmap
import SpotForecast.Proofs.Tree.EmptySlots

/-!
# The cache as a plain map

To a caller that nobody disturbs the cache is a map from identifiers to trees.  It has slots that
are made before a tree arrives and taken away when none does, and a source that may answer
differently every time, but none of that can be told from its answers.

* `Trees` is the map, and `Trees.get` says what is looked up, what is asked for and what is added.
* `Represents` relates a cache to the map: what is found, how many trees there are, and that no
  slot is empty.
* `Represents.answer` shows that one query keeps them related and gives the same answer, with the
  source asked in the same way; `answersOf_eq` passes from one query to any number of them.

`answersOf_empty` puts these together for queries to an empty cache.
-/

namespace SpotForecast

/-- Trees by their identifiers. -/
abbrev Trees := Finmap (fun _ : String => Loaded)

/-- What a caller can ask of a cache.  Each time a tree is asked for, the source may be another
one. -/
inductive Query (m : Type → Type) where
  | get (source : String → m (Except SourceFault Json)) (identifier : String)
  | contains (identifier : String)
  | size
  | isEmpty

/-- What is answered. -/
inductive Answer where
  | tree (answer : Except ForecastFault Loaded)
  | contains (answer : Bool)
  | size (count : Nat)
  | isEmpty (answer : Bool)

section Queries

variable {m : Type → Type} [Monad m] {σ τ : Type}

/-- The answers to queries, one after the other, where each may change the state. -/
def answersOf (answer : σ → Query m → m (Answer × σ)) : σ → List (Query m) → m (List Answer)
  | _, [] => pure []
  | state, q :: rest => do
    let (a, next) ← answer state q
    let others ← answersOf answer next rest
    pure (a :: others)

/-- The answer of a map that is asked for a tree, and the map after it.  A tree that is there is
the answer, and the source is not asked.  Otherwise the source is asked once.  A definition that
arrives and can be loaded gives a new tree, which is added; in all other cases the map stays as it
is. -/
def Trees.get (source : String → m (Except SourceFault Json)) (t : Trees) (identifier : String) :
    m (Except ForecastFault Loaded × Trees) :=
  match t.lookup identifier with
  | some l => pure (.ok l, t)
  | none => do
    match ← source identifier with
    | .error e => pure (.error (.invalidTree (identifier ++ ": " ++ e.message)), t)
    | .ok definition =>
      match DecisionTree.load identifier definition with
      | .error e => pure (.error e, t)
      | .ok tree =>
        let l : Loaded := ⟨tree, t.keys.card⟩
        pure (.ok l, t.insert identifier l)

/-- The answer of a map to a query: what it contains are its keys. -/
def Trees.answer (t : Trees) : Query m → m (Answer × Trees)
  | .get source identifier => do
    let (answer, t) ← t.get source identifier
    pure (.tree answer, t)
  | .contains identifier => pure (.contains (identifier ∈ t.keys), t)
  | .size => pure (.size t.keys.card, t)
  | .isEmpty => pure (.isEmpty (t.keys = ∅), t)

/-- The answer of a cache to a query. -/
def Cache.answer (c : Cache) : Query m → m (Answer × Cache)
  | .get source identifier => do
    let (answer, c) ← c.get source identifier
    pure (.tree answer, c)
  | .contains identifier => pure (.contains (c.contains identifier), c)
  | .size => pure (.size c.size, c)
  | .isEmpty => pure (.isEmpty c.isEmpty, c)

end Queries

namespace Cache

variable {c : Cache} {t : Trees} {identifier : String} {l : Loaded} {tree : DecisionTree}

/-! ### How a cache represents a map -/

/-- How a cache without callers represents a map. -/
structure Represents (c : Cache) (t : Trees) : Prop where
  tree?_eq : ∀ identifier, c.tree? identifier = t.lookup identifier
  loaded_eq : c.loaded = t.keys.card
  one_entry : c.OneEntry
  full : ∀ entry ∈ c.slots, (c.content? entry.2).isSome
  fresh : ∀ slot, c.made ≤ slot → c.content? slot = none

theorem represents_empty : Represents .empty ∅ where
  tree?_eq identifier := by
    rw [Finmap.lookup_empty]
    rfl
  loaded_eq := rfl
  one_entry := List.nodup_nil
  full := by simp [empty]
  fresh _ _ := rfl

theorem mem_slots_of_find? {slot : Nat} (h : c.find? identifier = some slot) :
    (identifier, slot) ∈ c.slots := by
  obtain ⟨before, after, heq, -⟩ := List.lookup_eq_some_iff.mp h
  simp [heq]

/-- What is in the map has an entry. -/
theorem Represents.mem_slots_iff (h : Represents c t) :
    identifier ∈ c.slots.map Prod.fst ↔ identifier ∈ t.keys := by
  rw [Finmap.mem_keys, ← Finmap.lookup_isSome, ← h.tree?_eq]
  constructor
  · intro hmem
    obtain ⟨entry, hentry, rfl⟩ := List.mem_map.mp hmem
    rw [tree?, find?_of_mem_slots h.one_entry hentry]
    exact h.full entry hentry
  · intro hsome
    obtain ⟨l, hl⟩ := Option.isSome_iff_exists.mp hsome
    obtain ⟨slot, hfind, -⟩ := tree?_eq_some_iff.mp hl
    exact List.mem_map_of_mem (mem_slots_of_find? hfind)

/-- What the map does not have has no slot, not even an empty one. -/
theorem Represents.find?_eq_none (h : Represents c t) (hmiss : t.lookup identifier = none) :
    c.find? identifier = none := by
  cases hfind : c.find? identifier with
  | none => rfl
  | some slot =>
      have hmem : identifier ∈ c.slots.map Prod.fst :=
        List.mem_map_of_mem (mem_slots_of_find? hfind)
      have hkey := Finmap.mem_keys.mp (h.mem_slots_iff.mp hmem)
      exact absurd hkey (Finmap.lookup_eq_none.mp hmiss)

theorem Represents.size_eq (h : Represents c t) : c.size = t.keys.card := by
  have hkeys : (c.slots.map Prod.fst).toFinset = t.keys := by
    ext identifier
    rw [List.mem_toFinset, h.mem_slots_iff]
  have hcard : (c.slots.map Prod.fst).toFinset.card = c.slots.length := by
    rw [List.toFinset_card_of_nodup h.one_entry, List.length_map]
  rw [size, List.filter_eq_self.mpr h.full, ← hkeys, hcard]

theorem Represents.contains_eq (h : Represents c t) (identifier : String) :
    c.contains identifier = decide (identifier ∈ t.keys) := by
  have hiff : (t.lookup identifier).isSome = true ↔ identifier ∈ t.keys := by
    rw [Finmap.lookup_isSome, Finmap.mem_keys]
  rw [contains, h.tree?_eq]
  exact Bool.eq_iff_iff.mpr (hiff.trans decide_eq_true_iff.symm)

theorem Represents.isEmpty_eq (h : Represents c t) : c.isEmpty = decide (t.keys = ∅) := by
  have hiff : (t.keys.card == 0) = true ↔ t.keys = ∅ := by
    rw [beq_iff_eq, Finset.card_eq_zero]
  rw [isEmpty, h.size_eq]
  exact Bool.eq_iff_iff.mpr (hiff.trans decide_eq_true_iff.symm)

/-! ### One tree asked for -/

/-- A cache with one more tree, in a new slot. -/
def learn (c : Cache) (identifier : String) (tree : DecisionTree) : Cache :=
  ⟨(identifier, c.made) :: c.slots, (c.made, ⟨tree, c.loaded⟩) :: c.contents, c.made + 1,
    c.loaded + 1⟩

/-- A new slot that is taken away at once leaves nothing behind but its number. -/
theorem release_claim (h : c.find? identifier = none) (hfresh : c.content? c.made = none) :
    (c.claim identifier).2.release identifier c.made = { c with made := c.made + 1 } := by
  have hfind : (c.claim identifier).2.find? identifier = some c.made := by
    rw [find?_claim h, if_pos rfl]
  have hkept : c.slots.filter (fun entry => entry.1 != identifier) = c.slots := by
    refine List.filter_eq_self.mpr fun entry hentry => bne_iff_ne.mpr ?_
    rintro rfl
    exact notMem_of_find?_eq_none h (List.mem_map_of_mem hentry)
  rw [claim_of_none h] at hfind ⊢
  rw [release, if_pos ⟨hfind, hfresh⟩]
  simp [hkept]

section Get

variable {m : Type → Type} [Monad m] {source : String → m (Except SourceFault Json)}

theorem get_of_tree? (h : c.tree? identifier = some l) :
    c.get source identifier = pure (.ok l, c) := by
  obtain ⟨slot, hfind, hcontent⟩ := tree?_eq_some_iff.mp h
  simp only [get, claim_of_some hfind, hcontent]

/-- Without a slot the source is asked once, and what it answers is loaded into a new slot. -/
theorem get_of_find?_eq_none (h : c.find? identifier = none)
    (hfresh : c.content? c.made = none) : c.get source identifier = (do
      match DecisionTree.ofAnswer identifier (← source identifier) with
      | .ok tree => pure (.ok ⟨tree, c.loaded⟩, c.learn identifier tree)
      | .error e => pure (.error e, { c with made := c.made + 1 })) := by
  have hrelease := release_claim h hfresh
  rw [claim_of_none h] at hrelease
  have hempty : content? ⟨(identifier, c.made) :: c.slots, c.contents, c.made + 1, c.loaded⟩
      c.made = none := hfresh
  simp only [get, claim_of_none h, hempty, hrelease]
  rfl

end Get

theorem find?_learn (h : c.find? identifier = none) (other : String) :
    (c.learn identifier tree).find? other =
      if other = identifier then some c.made else c.find? other := by
  rw [← find?_claim h, claim_of_none h]
  rfl

theorem content?_learn (slot : Nat) :
    (c.learn identifier tree).content? slot =
      if slot = c.made then some ⟨tree, c.loaded⟩ else c.content? slot := by
  rw [← content?_fill]
  rfl

/-- A slot with content is not the new one. -/
theorem Represents.content?_learn_of_isSome (h : Represents c t) {slot : Nat}
    (hsome : (c.content? slot).isSome) :
    (c.learn identifier tree).content? slot = c.content? slot := by
  rw [content?_learn, if_neg]
  rintro rfl
  rw [h.fresh c.made (le_refl _)] at hsome
  cases hsome

theorem Represents.tree?_learn (h : Represents c t) (hnone : c.find? identifier = none)
    (other : String) :
    (c.learn identifier tree).tree? other =
      (t.insert identifier ⟨tree, t.keys.card⟩).lookup other := by
  rw [tree?, find?_learn hnone]
  by_cases hother : other = identifier
  · subst hother
    rw [if_pos rfl, Finmap.lookup_insert, Option.bind_some, content?_learn, if_pos rfl]
    rw [h.loaded_eq]
  · rw [if_neg hother, Finmap.lookup_insert_of_ne t hother, ← h.tree?_eq, tree?]
    cases hslot : c.find? other with
    | none => rfl
    | some slot => exact h.content?_learn_of_isSome (h.full _ (mem_slots_of_find? hslot))

theorem card_keys_insert (hmiss : t.lookup identifier = none) (l : Loaded) :
    (t.insert identifier l).keys.card = t.keys.card + 1 := by
  have hkeys : (t.insert identifier l).keys = insert identifier t.keys := by
    ext other
    rw [Finmap.mem_keys, Finmap.mem_insert, Finset.mem_insert, Finmap.mem_keys]
  have hkey : identifier ∉ t.keys := by
    rw [Finmap.mem_keys]
    exact Finmap.lookup_eq_none.mp hmiss
  rw [hkeys, Finset.card_insert_of_notMem hkey]

/-- A tree that the map does not have, added to both. -/
theorem Represents.learn (h : Represents c t) (hmiss : t.lookup identifier = none) :
    Represents (c.learn identifier tree) (t.insert identifier ⟨tree, t.keys.card⟩) := by
  have hnone := h.find?_eq_none hmiss
  constructor
  case tree?_eq => exact h.tree?_learn hnone
  case loaded_eq =>
    rw [card_keys_insert hmiss, ← h.loaded_eq]
    rfl
  case one_entry =>
    have hone := h.one_entry.claim hnone
    rw [claim_of_none hnone] at hone
    exact hone
  case full =>
    intro entry hentry
    rcases List.mem_cons.mp hentry with rfl | hentry
    · rw [content?_learn, if_pos rfl]
      rfl
    · rw [h.content?_learn_of_isSome (h.full entry hentry)]
      exact h.full entry hentry
  case fresh =>
    intro slot hslot
    have hlater : c.made + 1 ≤ slot := hslot
    rw [content?_learn, if_neg (by omega)]
    exact h.fresh slot (by omega)

/-- A slot that was made for nothing changes nothing. -/
theorem Represents.skip (h : Represents c t) : Represents { c with made := c.made + 1 } t where
  tree?_eq := h.tree?_eq
  loaded_eq := h.loaded_eq
  one_entry := h.one_entry
  full := h.full
  fresh slot hslot := h.fresh slot (Nat.le_of_succ_le hslot)

/-! ### Queries -/

section Queries

variable {m : Type → Type} [Monad m] [LawfulMonad m]

/-- A query for a tree: the source is asked by both or by neither, and both learn the same. -/
theorem Represents.get (h : Represents c t) (source : String → m (Except SourceFault Json))
    (identifier : String) {β : Type} {k : Except ForecastFault Loaded × Cache → m β}
    {k' : Except ForecastFault Loaded × Trees → m β}
    (hk : ∀ r c' t', Represents c' t' → k (r, c') = k' (r, t')) :
    c.get source identifier >>= k = t.get source identifier >>= k' := by
  cases hlookup : t.lookup identifier with
  | some l =>
      have hfound : c.tree? identifier = some l := by rw [h.tree?_eq, hlookup]
      simp only [get_of_tree? hfound, Trees.get, hlookup, pure_bind]
      exact hk _ c t h
  | none =>
      have hnone := h.find?_eq_none hlookup
      have hfresh := h.fresh c.made (le_refl _)
      simp only [get_of_find?_eq_none hnone hfresh, Trees.get, hlookup, bind_assoc]
      refine bind_congr fun answer => ?_
      cases answer with
      | error e =>
          simp only [DecisionTree.ofAnswer, pure_bind]
          exact hk _ _ t h.skip
      | ok definition =>
          cases hload : DecisionTree.load identifier definition with
          | error e =>
              simp only [DecisionTree.ofAnswer, hload, pure_bind]
              exact hk _ _ t h.skip
          | ok tree =>
              simp only [DecisionTree.ofAnswer, hload, pure_bind, h.loaded_eq]
              exact hk _ _ _ (h.learn hlookup)

/-- **One query.**  A cache and the map that it represents give the same answer and ask the source
in the same way, and afterwards the one represents the other again: whatever goes on from there in
the same way for both goes on in the same way from the query. -/
theorem Represents.answer (h : Represents c t) (q : Query m) {β : Type}
    {k : Answer × Cache → m β} {k' : Answer × Trees → m β}
    (hk : ∀ a c' t', Represents c' t' → k (a, c') = k' (a, t')) :
    c.answer q >>= k = t.answer q >>= k' := by
  cases q with
  | contains identifier =>
      simp only [Cache.answer, Trees.answer, pure_bind, h.contains_eq]
      exact hk _ c t h
  | size =>
      simp only [Cache.answer, Trees.answer, pure_bind, h.size_eq]
      exact hk _ c t h
  | isEmpty =>
      simp only [Cache.answer, Trees.answer, pure_bind, h.isEmpty_eq]
      exact hk _ c t h
  | get source identifier =>
      simp only [Cache.answer, Trees.answer, bind_assoc, pure_bind]
      exact h.get source identifier fun r c' t' h' => hk _ c' t' h'

/-- **Any number of queries.**  A cache answers them like the map that it represents. -/
theorem Represents.answersOf_eq (h : Represents c t) (queries : List (Query m)) :
    answersOf Cache.answer c queries = answersOf Trees.answer t queries := by
  induction queries generalizing c t with
  | nil => rfl
  | cons q rest ih =>
      refine h.answer q fun a c' t' h' => ?_
      simp only [ih h']

/-- **The cache as a plain map.**  Queries to an empty cache, one after the other and with any
source each time, are answered like queries to a map that is empty at first, and the sources are
asked for the same trees in the same order. -/
theorem answersOf_empty (queries : List (Query m)) :
    answersOf Cache.answer Cache.empty queries = answersOf Trees.answer ∅ queries :=
  represents_empty.answersOf_eq queries

end Queries

/-- A source that writes down what it is asked for and always answers the same. -/
def recorded (answer : Except SourceFault Json) (identifier : String) :
    StateM (List String) (Except SourceFault Json) := do
  modify (· ++ [identifier])
  pure answer

/-- Queries for a tree whose definition is missing, then rejected, then accepted, then missing
again. -/
def changingQueries : List (Query (StateM (List String))) :=
  [.get (recorded (.error (.notFound "t"))) "t", .get (recorded (.ok (.object []))) "t",
    .contains "t", .get (recorded (.ok (.number (.real 1.0)))) "t",
    .get (recorded (.error (.notFound "t"))) "t", .contains "t", .size]

/-- The source of the changing definitions is asked until a tree was loaded, and no more. -/
theorem answersOf_empty_changingQueries :
    LawfulMonad (StateM (List String)) ∧
      answersOf Cache.answer empty changingQueries = answersOf Trees.answer ∅ changingQueries ∧
      (answersOf Cache.answer empty changingQueries).run [] =
        ([.tree (.error (.invalidTree "t: Not found: t")),
          .tree (.error (.invalidTree "node must have a 'field' key or be a single-key union")),
          .contains false, .tree (.ok ⟨⟨"t", .leaf 1.0⟩, 0⟩), .tree (.ok ⟨⟨"t", .leaf 1.0⟩, 0⟩),
          .contains true, .size 1], ["t", "t", "t"]) := by
  have hfinite : (Json.Number.real 1.0).toFloat? = some 1.0 := by decide +kernel
  have hrejected : DecisionTree.load "t" (.object []) = .error Tree.Defect.notUnion.toFault := by
    simp [DecisionTree.load, Tree.ofJson, Tree.start, Tree.documentPath, Json.path?, Json.get?,
      Json.lookup]
  have hloaded : DecisionTree.load "t" (.number (.real 1.0)) = .ok ⟨"t", .leaf 1.0⟩ := by
    simp [DecisionTree.load, Tree.ofJson, Tree.start, Tree.documentPath, Json.path?, Json.get?,
      hfinite]
  refine ⟨inferInstance, answersOf_empty changingQueries, ?_⟩
  simp [changingQueries, answersOf, Cache.answer, get, recorded, DecisionTree.ofAnswer, hrejected,
    hloaded, claim, find?, content?, fill, release, contains, tree?, size, empty]
  rfl

end Cache

end SpotForecast
