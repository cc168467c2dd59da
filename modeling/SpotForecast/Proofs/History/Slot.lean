import Mathlib.Data.List.Basic
import Mathlib.Data.List.Perm.Basic
import Mathlib.Data.Nat.Find
import SpotForecast.History.Slot
import SpotForecast.Proofs.History.Schedule

/-!
# One call at a time

`served_of_run`: whatever the order in which requests move, each of them is answered as `serve`
says, no two calls run at once, and all requests are answered after a bounded number of moves.

What is proved of a run rests on one notion.  `Slot.foretold` has the answers given so far, those
that the running calls will get, and those that `serveFrom` says the others will get from now on.
No move changes it, apart from the order of its entries (`Slot.Sound.foretold_move`).  Before the
first arrival it is `serve`, after the last answer it is what was answered.

* `Slot.Sound` collects what every state has in common; a move keeps it.
* `Slot.turns` are the requests that call, in turn; a move keeps them too.
* `Slot.Sound.exists_move` and `movesLeft_lt`: runs go on until all is answered, and then end.
-/

namespace SpotForecast.History

variable {limit : Nat} {history : Nat → String → Call} {requests : List Request} {s t : Slot}
  {xs ys : List (Request × Nat)} {x : Request × Nat} {r : Request} {key : Category}
  {i n free made moment : Nat}

/-! ### What is still to come -/

/-- How requests with numbers fare, if the slot is free from `free` on. -/
def ahead (limit : Nat) (history : Nat → String → Call) (free made : Nat)
    (xs : List (Request × Nat)) : List (Nat × Reply) :=
  (xs.map Prod.snd).zip (serveFrom limit history free made (xs.map Prod.fst))

/-- How a running call is answered. -/
def Running.reply (limit : Nat) (c : Running) : Reply :=
  ⟨some c.start, c.finish limit, c.call.within limit c.request.category⟩

/-- A call that begins at a moment. -/
def begun (history : Nat → String → Call) (start made : Nat) (x : Request × Nat) : Running :=
  ⟨x.2, x.1, start, history made x.1.category⟩

theorem ahead_cons_malformed (h : Category.parse? x.1.category = none) :
    ahead limit history free made (x :: xs) =
      (x.2, ⟨none, x.1.arrival, .ok []⟩) :: ahead limit history free made xs := by
  rw [ahead, List.map_cons, List.map_cons, serveFrom_cons_malformed h, List.zip_cons_cons]
  rfl

theorem ahead_cons_wellFormed (h : Category.parse? x.1.category = some key) :
    ahead limit history free made (x :: xs) =
      (x.2, (begun history (max x.1.arrival free) made x).reply limit) ::
        ahead limit history ((begun history (max x.1.arrival free) made x).finish limit)
          (made + 1) xs := by
  rw [ahead, List.map_cons, List.map_cons, serveFrom_cons_wellFormed h, List.zip_cons_cons]
  rfl

/-- A malformed request does not matter to the others, wherever it stands. -/
theorem ahead_append_malformed (h : Category.parse? x.1.category = none) :
    (ahead limit history free made (xs ++ x :: ys)).Perm
      ((x.2, ⟨none, x.1.arrival, .ok []⟩) :: ahead limit history free made (xs ++ ys)) := by
  induction xs generalizing free made with
  | nil => rw [List.nil_append, List.nil_append, ahead_cons_malformed h]
  | cons y rest ih =>
      cases hy : Category.parse? y.1.category with
      | none =>
          rw [List.cons_append, List.cons_append, ahead_cons_malformed hy,
            ahead_cons_malformed hy]
          exact (ih.cons _).trans (.swap _ _ _)
      | some key =>
          rw [List.cons_append, List.cons_append, ahead_cons_wellFormed hy,
            ahead_cons_wellFormed hy]
          exact (ih.cons _).trans (.swap _ _ _)

/-- It does not matter how long the slot has been free when a request arrives. -/
theorem ahead_congr {free' : Nat} (h : ∀ x ∈ xs, free ≤ x.1.arrival ∧ free' ≤ x.1.arrival) :
    ahead limit history free made xs = ahead limit history free' made xs := by
  induction xs with
  | nil => rfl
  | cons y rest ih =>
      cases hy : Category.parse? y.1.category with
      | none =>
          rw [ahead_cons_malformed hy, ahead_cons_malformed hy,
            ih (fun x hx => h x (List.mem_cons_of_mem y hx))]
      | some key =>
          obtain ⟨hfree, hfree'⟩ := h y List.mem_cons_self
          rw [ahead_cons_wellFormed hy, ahead_cons_wellFormed hy, Nat.max_eq_left hfree,
            Nat.max_eq_left hfree']

/-- When the slot is free again. -/
def Slot.freeFrom (limit : Nat) (s : Slot) : Nat :=
  match s.running with
  | [] => s.now
  | c :: _ => c.finish limit

/-- All answers, those that were given and those that are to come. -/
def Slot.foretold (limit : Nat) (history : Nat → String → Call) (s : Slot) : List (Nat × Reply) :=
  s.answered ++ s.running.map (fun c => (c.number, c.reply limit)) ++
    ahead limit history (s.freeFrom limit) s.called.length (s.line ++ s.coming)

/-- What holds of every state. -/
structure Slot.Sound (limit : Nat) (s : Slot) : Prop where
  permits : s.permits + s.running.length = 1
  line : ∀ x ∈ s.line, x.1.arrival ≤ s.now ∧ ∃ key, Category.parse? x.1.category = some key
  running : ∀ c ∈ s.running, s.now ≤ c.finish limit
  coming : ∀ x ∈ s.coming, s.now ≤ x.1.arrival
  sorted : s.coming.Pairwise (fun x y => x.1.arrival ≤ y.1.arrival)

theorem Slot.Sound.running_cases (h : s.Sound limit) :
    s.permits = 1 ∧ s.running = [] ∨ s.permits = 0 ∧ ∃ c, s.running = [c] := by
  have hpermits := h.permits
  match hrunning : s.running with
  | [] =>
      rw [hrunning] at hpermits
      exact Or.inl ⟨hpermits, rfl⟩
  | [c] =>
      rw [hrunning, List.length_singleton] at hpermits
      exact Or.inr ⟨by omega, c, rfl⟩
  | c :: c' :: rest =>
      rw [hrunning, List.length_cons, List.length_cons] at hpermits
      omega

/-! ### Moves -/

theorem sound_opened (limit : Nat)
    (hsorted : requests.Pairwise (fun a b => a.arrival ≤ b.arrival)) :
    (Slot.opened requests).Sound limit where
  permits := rfl
  line x hx := by cases hx
  running c hc := by cases hc
  coming x _ := Nat.zero_le _
  sorted := by
    have h : ((requests.zipIdx).map Prod.fst).Pairwise (fun a b => a.arrival ≤ b.arrival) := by
      rwa [List.zipIdx_map_fst]
    rw [List.pairwise_map] at h
    exact h

/-- The end of a call puts its permit back. -/
theorem Slot.Sound.ended (h : s.Sound limit) {c : Running} {before after : List Running}
    (hrunning : s.running = before ++ c :: after) :
    s.permits = 0 ∧ s.running = [c] ∧ before = [] ∧ after = [] := by
  rcases h.running_cases with ⟨-, hnone⟩ | ⟨hpermits, c', hone⟩
  · rw [hnone] at hrunning
    cases before <;> cases hrunning
  · rw [hone] at hrunning
    cases before with
    | nil =>
        cases hrunning
        exact ⟨hpermits, hone, rfl, rfl⟩
    | cons b before => cases before <;> cases hrunning

theorem Slot.Sound.refuse {rest : List (Request × Nat)} {answered : List (Nat × Reply)}
    (h : s.Sound limit) (hcoming : s.coming = (r, i) :: rest) :
    { s with coming := rest, answered := answered }.Sound limit where
  permits := h.permits
  line := h.line
  running := h.running
  coming x hx := h.coming x (hcoming ▸ List.mem_cons_of_mem _ hx)
  sorted := (hcoming ▸ h.sorted).of_cons

theorem Slot.Sound.join {rest : List (Request × Nat)} (h : s.Sound limit)
    (hcoming : s.coming = (r, i) :: rest) (hnow : s.now = r.arrival)
    (hkey : Category.parse? r.category = some key) :
    { s with coming := rest, line := s.line ++ [(r, i)] }.Sound limit where
  permits := h.permits
  line x hx := by
    rcases List.mem_append.mp hx with hx | hx
    · exact h.line x hx
    · cases List.mem_singleton.mp hx
      exact ⟨Nat.le_of_eq hnow.symm, key, hkey⟩
  running := h.running
  coming x hx := h.coming x (hcoming ▸ List.mem_cons_of_mem _ hx)
  sorted := (hcoming ▸ h.sorted).of_cons

/-- Where a permit is free, no call is running. -/
theorem Slot.Sound.idle {permits : Nat} (h : s.Sound limit) (hpermits : s.permits = permits + 1) :
    permits = 0 ∧ s.running = [] := by
  rcases h.running_cases with ⟨hone, hnone⟩ | ⟨hzero, -⟩
  · exact ⟨by omega, hnone⟩
  · omega

theorem Slot.Sound.acquire {rest : List (Request × Nat)} {permits : Nat} {called : List Nat}
    {call : Call} (h : s.Sound limit) (hline : s.line = (r, i) :: rest)
    (hpermits : s.permits = permits + 1) :
    Slot.Sound limit { s with line := rest, permits := permits, called := called,
                              running := s.running ++ [⟨i, r, s.now, call⟩] } := by
  obtain ⟨rfl, hnone⟩ := h.idle hpermits
  rw [hnone]
  constructor
  case permits => rfl
  case line => exact fun x hx => h.line x (hline ▸ List.mem_cons_of_mem _ hx)
  case running =>
    intro c hc
    cases List.mem_singleton.mp hc
    exact Nat.le_add_right _ _
  case coming => exact h.coming
  case sorted => exact h.sorted

/-- The end of a call leaves nothing running. -/
theorem Slot.Sound.release {c : Running} {before after : List Running}
    {answered : List (Nat × Reply)} (h : s.Sound limit)
    (hrunning : s.running = before ++ c :: after) :
    Slot.Sound limit { s with running := before ++ after, permits := s.permits + 1,
                              answered := answered } := by
  obtain ⟨hpermits, -, rfl, rfl⟩ := h.ended hrunning
  constructor
  case permits => exact congrArg (· + 1) hpermits
  case line => exact h.line
  case running =>
    intro c hc
    cases hc
  case coming => exact h.coming
  case sorted => exact h.sorted

theorem Slot.Sound.wait (h : s.Sound limit) (hlater : s.now < moment)
    (hfirst : ∀ other, s.Due limit other → moment ≤ other) :
    { s with now := moment }.Sound limit where
  permits := h.permits
  line x hx := ⟨Nat.le_trans (h.line x hx).1 (Nat.le_of_lt hlater), (h.line x hx).2⟩
  running c hc := hfirst _ (Or.inr ⟨c, hc, rfl⟩)
  coming x hx := hfirst _ (Or.inl ⟨x, hx, rfl⟩)
  sorted := h.sorted

/-- **A move keeps all that holds of a state.** -/
theorem Slot.Sound.move (h : s.Sound limit) (hmove : Move limit history s t) : t.Sound limit := by
  cases hmove with
  | refuse hcoming => exact h.refuse hcoming
  | join hcoming hnow hkey => exact h.join hcoming hnow hkey
  | acquire hline hpermits => exact h.acquire hline hpermits
  | reply hrunning => exact h.release hrunning
  | expire hrunning => exact h.release hrunning
  | wait _ hlater _ hfirst => exact h.wait hlater hfirst

/-! ### What is foretold -/

theorem foretold_of_idle (h : s.running = []) :
    s.foretold limit history =
      s.answered ++ ahead limit history s.now s.called.length (s.line ++ s.coming) := by
  rw [Slot.foretold, Slot.freeFrom, h, List.map_nil, List.append_nil]

theorem foretold_of_running {c : Running} (h : s.running = [c]) :
    s.foretold limit history = s.answered ++ (c.number, c.reply limit) ::
      ahead limit history (c.finish limit) s.called.length (s.line ++ s.coming) := by
  have hfree : s.freeFrom limit = c.finish limit := by rw [Slot.freeFrom, h]
  rw [Slot.foretold, hfree, h, List.map_singleton, List.append_assoc, List.singleton_append]

/-- The answer to a malformed request moves from the future to the front of it. -/
theorem foretold_refuse {rest : List (Request × Nat)} (hcoming : s.coming = (r, i) :: rest)
    (hnow : s.now = r.arrival) (hkey : Category.parse? r.category = none) :
    (Slot.foretold limit history { s with
      coming := rest, answered := s.answered ++ [(i, ⟨none, s.now, .ok []⟩)] }).Perm
        (s.foretold limit history) := by
  simp only [Slot.foretold]
  rw [hcoming]
  refine List.Perm.trans ?_ ((ahead_append_malformed hkey).symm.append_left _)
  rw [← hnow, List.append_assoc, List.append_assoc, List.append_assoc]
  refine List.Perm.append_left _ ?_
  exact (@List.perm_middle _ _ (s.running.map _) _).symm

theorem foretold_join {rest : List (Request × Nat)} (hcoming : s.coming = (r, i) :: rest) :
    { s with coming := rest, line := s.line ++ [(r, i)] }.foretold limit history =
      s.foretold limit history := by
  have hline : (s.line ++ [(r, i)]) ++ rest = s.line ++ s.coming := by
    rw [hcoming, List.append_assoc, List.singleton_append]
  simp only [Slot.foretold, hline]
  rfl

/-- A call that begins was the first that was foretold. -/
theorem Slot.Sound.foretold_acquire {rest : List (Request × Nat)} {permits : Nat}
    (h : s.Sound limit) (hline : s.line = (r, i) :: rest) (hpermits : s.permits = permits + 1) :
    Slot.foretold limit history
        { s with line := rest, permits := permits, called := s.called ++ [i],
                 running := s.running ++ [⟨i, r, s.now, history s.called.length r.category⟩] } =
      s.foretold limit history := by
  obtain ⟨-, hnone⟩ := h.idle hpermits
  obtain ⟨harrival, key, hkey⟩ := h.line (r, i) (hline ▸ List.mem_cons_self)
  have hbegun : s.running ++ [⟨i, r, s.now, history s.called.length r.category⟩] =
      [begun history s.now s.called.length (r, i)] := by
    rw [hnone, List.nil_append]
    rfl
  have hahead : ahead limit history s.now s.called.length (s.line ++ s.coming) =
      (i, (begun history s.now s.called.length (r, i)).reply limit) ::
        ahead limit history ((begun history s.now s.called.length (r, i)).finish limit)
          (s.called.length + 1) (rest ++ s.coming) := by
    rw [hline, List.cons_append, ahead_cons_wellFormed hkey, Nat.max_eq_right harrival]
  rw [foretold_of_running hbegun, foretold_of_idle hnone, hahead]
  simp only [List.length_append, List.length_singleton]
  rfl

/-- A call that is over or given up is answered as was foretold. -/
theorem Slot.Sound.foretold_release {c : Running} {before after : List Running}
    {outcome : Except (Stop SourceFault) (List Observation)} (h : s.Sound limit)
    (hrunning : s.running = before ++ c :: after) (hnow : s.now = c.finish limit)
    (houtcome : c.call.within limit c.request.category = outcome) :
    Slot.foretold limit history
        { s with running := before ++ after, permits := s.permits + 1,
                 answered := s.answered ++ [(c.number, ⟨some c.start, s.now, outcome⟩)] } =
      s.foretold limit history := by
  obtain ⟨-, hone, rfl, rfl⟩ := h.ended hrunning
  have hreply : c.reply limit = ⟨some c.start, s.now, outcome⟩ := by
    rw [Running.reply, ← hnow, houtcome]
  rw [foretold_of_running hone, foretold_of_idle rfl, hreply, ← hnow]
  exact List.append_assoc _ _ _

/-- Time that passes makes no difference to what comes after it. -/
theorem Slot.Sound.foretold_wait (h : s.Sound limit)
    (hline : s.line = [] ∨ s.permits = 0) (hlater : s.now < moment)
    (hfirst : ∀ other, s.Due limit other → moment ≤ other) :
    { s with now := moment }.foretold limit history = s.foretold limit history := by
  rcases h.running_cases with ⟨hone, hnone⟩ | ⟨-, c, hc⟩
  · -- nobody waits, so it only matters when the next requests arrive
    have hempty : s.line = [] := hline.resolve_right (by omega)
    have hahead : ahead limit history moment s.called.length s.coming =
        ahead limit history s.now s.called.length s.coming := by
      refine ahead_congr fun x hx => ?_
      have hle : moment ≤ x.1.arrival := hfirst _ (Or.inl ⟨x, hx, rfl⟩)
      exact ⟨hle, Nat.le_trans (Nat.le_of_lt hlater) hle⟩
    have hwaited : { s with now := moment }.running = [] := hnone
    rw [foretold_of_idle hnone, foretold_of_idle hwaited]
    simp only [hempty, List.nil_append, hahead]
  · have hwaited : { s with now := moment }.running = [c] := hc
    rw [foretold_of_running hc, foretold_of_running hwaited]

/-- **A move changes no answer that was foretold.** -/
theorem Slot.Sound.foretold_move (h : s.Sound limit) (hmove : Move limit history s t) :
    (t.foretold limit history).Perm (s.foretold limit history) := by
  cases hmove with
  | refuse hcoming hnow hkey => exact foretold_refuse hcoming hnow hkey
  | join hcoming => exact .of_eq (foretold_join hcoming)
  | acquire hline hpermits => exact .of_eq (h.foretold_acquire hline hpermits)
  | @reply c before after hrunning hnow hlimit =>
      have hfinish : s.now = c.finish limit := by
        rw [Running.finish, Nat.min_eq_left hlimit, hnow]
      exact .of_eq (h.foretold_release hrunning hfinish (if_pos hlimit))
  | @expire c before after hrunning hnow hlimit =>
      have hfinish : s.now = c.finish limit := by
        rw [Running.finish, Nat.min_eq_right (Nat.le_of_lt hlimit), hnow]
      exact .of_eq (h.foretold_release hrunning hfinish (if_neg (Nat.not_le_of_lt hlimit)))
  | wait hline hlater _ hfirst => exact .of_eq (h.foretold_wait hline hlater hfirst)

/-! ### Runs -/

theorem Slot.Sound.run (h : s.Sound limit) (hrun : Run limit history s n t) : t.Sound limit := by
  induction hrun with
  | stop => exact h
  | move _ hmove ih => exact ih.move hmove

theorem Slot.Sound.foretold_run (h : s.Sound limit) (hrun : Run limit history s n t) :
    (t.foretold limit history).Perm (s.foretold limit history) := by
  induction hrun with
  | stop => exact List.Perm.refl _
  | move hrun hmove ih => exact ((h.run hrun).foretold_move hmove).trans ih

/-- The numbers of the requests that need the slot, in the order of their arrival. -/
def callers (xs : List (Request × Nat)) : List Nat :=
  (xs.filter (fun x => x.1.needsSlot)).map Prod.snd

/-- The requests that have called, that wait and that will call. -/
def Slot.turns (s : Slot) : List Nat :=
  s.called ++ callers (s.line ++ s.coming)

/-- **A move makes nobody call twice, out of turn or without need.** -/
theorem Slot.Sound.turns_move (h : s.Sound limit) (hmove : Move limit history s t) :
    t.turns = s.turns := by
  cases hmove with
  | @refuse r i rest hcoming hnow hkey =>
      simp [Slot.turns, callers, Request.needsSlot, hcoming, hkey]
  | @join r i key rest hcoming hnow hkey =>
      simp [Slot.turns, callers, hcoming]
  | @acquire r i permits rest hline hpermits =>
      obtain ⟨-, key, hkey⟩ := h.line (r, i) (hline ▸ List.mem_cons_self)
      simp [Slot.turns, callers, Request.needsSlot, hline, hkey]
  | reply | expire | wait => rfl

theorem Slot.Sound.turns_run (h : s.Sound limit) (hrun : Run limit history s n t) :
    t.turns = s.turns := by
  induction hrun with
  | stop => rfl
  | move hrun hmove ih => exact ((h.run hrun).turns_move hmove).trans ih

/-- All requests have been answered. -/
def Slot.Over (s : Slot) : Prop :=
  s.coming = [] ∧ s.line = [] ∧ s.running = []

/-- What is due can happen. -/
theorem Slot.Sound.exists_move_of_due (h : s.Sound limit) (hdue : s.Due limit s.now) :
    ∃ t, Move limit history s t := by
  rcases hdue with ⟨x, hx, hnow⟩ | ⟨c, hc, hnow⟩
  · -- the first request that has not arrived comes no later than any other
    cases hcoming : s.coming with
    | nil =>
        rw [hcoming] at hx
        cases hx
    | cons y rest =>
        obtain ⟨r, i⟩ := y
        have hmem : (r, i) ∈ s.coming := hcoming ▸ List.mem_cons_self
        have hle : r.arrival ≤ s.now := by
          have hsorted := h.sorted
          rw [hcoming] at hx hsorted
          rcases List.mem_cons.mp hx with rfl | hx
          · exact Nat.le_of_eq hnow
          · exact hnow ▸ List.rel_of_pairwise_cons hsorted hx
        have hhead : s.now = r.arrival := Nat.le_antisymm (h.coming (r, i) hmem) hle
        cases hkey : Category.parse? r.category with
        | none => exact ⟨_, .refuse hcoming hhead hkey⟩
        | some key => exact ⟨_, .join hcoming hhead hkey⟩
  · obtain ⟨before, after, hrunning⟩ := List.append_of_mem hc
    rw [Running.finish] at hnow
    by_cases hlimit : c.call.duration ≤ limit
    · rw [Nat.min_eq_left hlimit] at hnow
      exact ⟨_, .reply hrunning hnow.symm hlimit⟩
    · rw [Nat.min_eq_right (Nat.le_of_not_le hlimit)] at hnow
      exact ⟨_, .expire hrunning hnow.symm (Nat.lt_of_not_le hlimit)⟩

/-- **Nobody is forgotten.**  Until all requests have been answered there is a next move. -/
theorem Slot.Sound.exists_move (h : s.Sound limit) (history : Nat → String → Call)
    (hover : ¬s.Over) :
    ∃ t, Move limit history s t := by
  by_cases hline : s.line = [] ∨ s.permits = 0
  · have hsome : ∃ moment, s.Due limit moment := by
      rcases h.running_cases with ⟨hpermits, hnone⟩ | ⟨-, c, hc⟩
      · have hempty : s.line = [] := hline.resolve_right (by omega)
        obtain ⟨x, hx⟩ : ∃ x, x ∈ s.coming :=
          List.exists_mem_of_ne_nil _ (fun hcoming => hover ⟨hcoming, hempty, hnone⟩)
        exact ⟨_, Or.inl ⟨x, hx, rfl⟩⟩
      · exact ⟨_, Or.inr ⟨c, hc ▸ List.mem_singleton_self c, rfl⟩⟩
    obtain ⟨moment, hdue, hfirst⟩ : ∃ moment, s.Due limit moment ∧
        ∀ other, s.Due limit other → moment ≤ other := by
      classical
      exact ⟨Nat.find hsome, Nat.find_spec hsome, fun _ hother => Nat.find_min' hsome hother⟩
    have hle : s.now ≤ moment := by
      rcases hdue with ⟨x, hx, rfl⟩ | ⟨c, hc, rfl⟩
      · exact h.coming x hx
      · exact h.running c hc
    rcases Nat.eq_or_lt_of_le hle with rfl | hlt
    · exact h.exists_move_of_due hdue
    · exact ⟨_, .wait hline hlt hdue hfirst⟩
  · obtain ⟨hne, hpermits⟩ := not_or.mp hline
    obtain ⟨⟨r, i⟩, rest, hfront⟩ := List.exists_cons_of_ne_nil hne
    obtain ⟨permits, hsucc⟩ := Nat.exists_eq_succ_of_ne_zero hpermits
    exact ⟨_, .acquire hfront hsucc⟩

open Classical in
/-- The moves that requests need at most until all have been answered; a wait may come before each
other move. -/
noncomputable def Slot.movesLeft (limit : Nat) (s : Slot) : Nat :=
  2 * (3 * s.coming.length + 2 * s.line.length + s.running.length) +
    if s.Due limit s.now then 0 else 1

theorem movesLeft_le (limit : Nat) (s : Slot) : s.movesLeft limit ≤
    2 * (3 * s.coming.length + 2 * s.line.length + s.running.length) + 1 := by
  rw [Slot.movesLeft]
  split <;> omega

theorem le_movesLeft (limit : Nat) (s : Slot) :
    2 * (3 * s.coming.length + 2 * s.line.length + s.running.length) ≤ s.movesLeft limit :=
  Nat.le_add_right _ _

/-- **Every move is a step towards the last answer.** -/
theorem movesLeft_lt (hmove : Move limit history s t) : t.movesLeft limit < s.movesLeft limit := by
  have hle := movesLeft_le limit t
  have hge := le_movesLeft limit s
  cases hmove with
  | refuse hcoming =>
      simp only [hcoming, List.length_cons] at hle hge
      omega
  | join hcoming =>
      simp only [hcoming, List.length_cons, List.length_append, List.length_nil] at hle hge
      omega
  | acquire hline =>
      simp only [hline, List.length_cons, List.length_append, List.length_nil] at hle hge
      omega
  | reply hrunning | expire hrunning =>
      simp only [hrunning, List.length_cons, List.length_append] at hle hge
      omega
  | @wait moment _ hlater hdue hfirst =>
      have hnot : ¬s.Due limit s.now := fun hnow => Nat.not_le_of_lt hlater (hfirst _ hnow)
      have hafter : Slot.Due limit { s with now := moment } moment := hdue
      rw [Slot.movesLeft, Slot.movesLeft, if_neg hnot, if_pos hafter]
      exact Nat.lt_succ_self _

theorem length_run (hrun : Run limit history s n t) :
    n + t.movesLeft limit ≤ s.movesLeft limit := by
  induction hrun with
  | stop => rw [Nat.zero_add]
  | move _ hmove ih =>
      have hlt := movesLeft_lt hmove
      omega

/-! ### From the first arrival on -/

theorem foretold_opened : (Slot.opened requests).foretold limit history =
    (List.range' 0 requests.length).zip (serve limit history requests) := by
  rw [foretold_of_idle rfl]
  simp only [Slot.opened, List.nil_append, ahead, List.zipIdx_map_fst, List.zipIdx_map_snd]
  rfl

/-- The answer that is foretold to a request is that in its place. -/
theorem getElem?_serve_of_mem {reply : Reply}
    (h : (i, reply) ∈ (List.range' 0 requests.length).zip (serve limit history requests)) :
    (serve limit history requests)[i]? = some reply := by
  obtain ⟨k, hk⟩ := List.mem_iff_getElem?.mp h
  obtain ⟨hnumber, hreply⟩ := List.getElem?_zip_eq_some.mp hk
  obtain ⟨hk', hvalue⟩ := List.getElem?_eq_some_iff.mp hnumber
  rw [List.getElem_range'] at hvalue
  have hnumbered : k = i := by
    simp only at hvalue
    omega
  rw [← hnumbered]
  exact hreply

theorem map_fst_zip_serve :
    ((List.range' 0 requests.length).zip (serve limit history requests)).map Prod.fst =
      List.range requests.length := by
  rw [List.map_fst_zip, List.range_eq_range']
  rw [List.length_range', serve, length_serveFrom]

theorem mem_callers_iff : i ∈ callers requests.zipIdx ↔
    ∃ r key, requests[i]? = some r ∧ Category.parse? r.category = some key := by
  rw [callers, List.mem_map]
  constructor
  · rintro ⟨⟨r, j⟩, hx, rfl⟩
    obtain ⟨hmem, hneeds⟩ := List.mem_filter.mp hx
    obtain ⟨key, hkey⟩ := Option.isSome_iff_exists.mp hneeds
    exact ⟨r, key, List.mem_zipIdx_iff_getElem?.mp hmem, hkey⟩
  · rintro ⟨r, key, hr, hkey⟩
    exact ⟨(r, i), List.mem_filter.mpr ⟨List.mem_zipIdx_iff_getElem?.mpr hr,
      Option.isSome_of_eq_some hkey⟩, rfl⟩

/-- The numbers of requests grow. -/
theorem callers_pairwise : (callers requests.zipIdx).Pairwise (· < ·) := by
  have hsub : (callers requests.zipIdx).Sublist (requests.zipIdx.map Prod.snd) :=
    List.filter_sublist.map Prod.snd
  rw [List.zipIdx_map_snd] at hsub
  exact List.Pairwise.sublist hsub List.pairwise_lt_range'

/-- Answers are those that are served. -/
theorem getElem?_serve_of_answered
    (hsorted : requests.Pairwise (fun a b => a.arrival ≤ b.arrival))
    (hrun : Run limit history (Slot.opened requests) n s) {reply : Reply}
    (hreply : (i, reply) ∈ s.answered) : (serve limit history requests)[i]? = some reply := by
  have hforetold := (sound_opened limit hsorted).foretold_run hrun
  rw [foretold_opened] at hforetold
  refine getElem?_serve_of_mem (hforetold.subset ?_)
  exact List.mem_append_left _ (List.mem_append_left _ hreply)

/-- An answer is given to a request. -/
theorem exists_request_of_answered
    (hsorted : requests.Pairwise (fun a b => a.arrival ≤ b.arrival))
    (hrun : Run limit history (Slot.opened requests) n s) {reply : Reply}
    (hreply : (i, reply) ∈ s.answered) : ∃ r, requests[i]? = some r := by
  have hserved := getElem?_serve_of_answered hsorted hrun hreply
  have hlength : (serve limit history requests).length = requests.length := length_serveFrom
  have hlt : i < requests.length := by
    rw [← hlength]
    exact (List.getElem?_eq_some_iff.mp hserved).1
  exact ⟨requests[i], List.getElem?_eq_getElem hlt⟩

/-- Without a next move the requests have all arrived and called, and none is running. -/
theorem over_of_stuck (hsorted : requests.Pairwise (fun a b => a.arrival ≤ b.arrival))
    (hrun : Run limit history (Slot.opened requests) n s)
    (hstuck : ∀ t, ¬Move limit history s t) : s.Over := by
  by_contra hover
  obtain ⟨t, hmove⟩ := ((sound_opened limit hsorted).run hrun).exists_move history hover
  exact hstuck t hmove

/-- When there is no next move, all requests have been answered. -/
theorem mem_answered_of_stuck (hsorted : requests.Pairwise (fun a b => a.arrival ≤ b.arrival))
    (hrun : Run limit history (Slot.opened requests) n s) (hstuck : ∀ t, ¬Move limit history s t)
    (hi : i < requests.length) : i ∈ s.answered.map Prod.fst := by
  obtain ⟨hcoming, hline, hrunning⟩ := over_of_stuck hsorted hrun hstuck
  have hnumbers := ((sound_opened limit hsorted).foretold_run hrun).map Prod.fst
  rw [foretold_opened, map_fst_zip_serve] at hnumbers
  -- nothing is left that is still to be answered
  rw [foretold_of_idle hrunning, hline, hcoming] at hnumbers
  have hmem := hnumbers.symm.subset (List.mem_range.mpr hi)
  simpa [ahead] using hmem

/-- When there is no next move, the history has been called for all requests that need it. -/
theorem mem_called_of_stuck (hsorted : requests.Pairwise (fun a b => a.arrival ≤ b.arrival))
    (hrun : Run limit history (Slot.opened requests) n s) (hstuck : ∀ t, ¬Move limit history s t)
    (hr : requests[i]? = some r) (hkey : Category.parse? r.category = some key) :
    i ∈ s.called := by
  obtain ⟨hcoming, hline, -⟩ := over_of_stuck hsorted hrun hstuck
  have hturns : s.called ++ callers (s.line ++ s.coming) = callers requests.zipIdx :=
    (sound_opened limit hsorted).turns_run hrun
  rw [hline, hcoming] at hturns
  have hmem : i ∈ callers requests.zipIdx := mem_callers_iff.mpr ⟨r, key, hr, hkey⟩
  rw [← hturns] at hmem
  simpa [callers] using hmem

/-- A reply that is served is the answer to a single request with the slot free, if the history
does not change from one call to the next. -/
theorem outcome_of_serve {history : String → Call} {r : Request} {reply : Reply}
    (hr : requests[i]? = some r)
    (hreply : (serve limit (fun _ => history) requests)[i]? = some reply) :
    reply.outcome = fetchWithin limit r.category (history r.category) := by
  rw [fetchWithin]
  cases hkey : Category.parse? r.category with
  | none =>
      obtain rfl := Option.some.inj (hreply.symm.trans (serveFrom_malformed hr hkey))
      rfl
  | some key =>
      obtain rfl := Option.some.inj (hreply.symm.trans (serve_wellFormed hr hkey).2)
      rfl

/-- What is known of requests that share one slot, after some moves. -/
structure Served (limit : Nat) (history : Nat → String → Call) (requests : List Request)
    (moves : Nat) (s : Slot) : Prop where
  scheduled : Scheduled limit history requests (serve limit history requests)
  one_running : s.permits + s.running.length = 1
  /-- A running call began and will end as is served. -/
  running : ∀ c ∈ s.running, (serve limit history requests)[c.number]? = some (c.reply limit)
  answered : ∀ i reply, (i, reply) ∈ s.answered →
    (serve limit history requests)[i]? = some reply
  answered_once : (s.answered.map Prod.fst).Nodup
  called_once : s.called.Pairwise (· < ·)
  called : ∀ i ∈ s.called, ∃ r key, requests[i]? = some r ∧ Category.parse? r.category = some key
  moves_le : moves ≤ 6 * requests.length + 1
  /-- When there is no next move, all requests have been answered and all of those that need the
  slot have called. -/
  complete : (∀ t, ¬Move limit history s t) →
    (∀ i < requests.length, i ∈ s.answered.map Prod.fst) ∧
      ∀ i r key, requests[i]? = some r → Category.parse? r.category = some key → i ∈ s.called

/-- **One call at a time.**  However the moves of requests are mixed, they are answered as `serve`
says, and the history is called once, alone and in turn for each of them that needs it. -/
theorem served_of_run (hsorted : requests.Pairwise (fun a b => a.arrival ≤ b.arrival))
    (hrun : Run limit history (Slot.opened requests) n s) :
    Served limit history requests n s := by
  have hopened := sound_opened limit hsorted
  have hsound := hopened.run hrun
  have hforetold := hopened.foretold_run hrun
  rw [foretold_opened] at hforetold
  have hnumbers := hforetold.map Prod.fst
  rw [map_fst_zip_serve] at hnumbers
  have hturns : s.called ++ callers (s.line ++ s.coming) = callers requests.zipIdx :=
    hopened.turns_run hrun
  have hbegin : s.called <+: callers requests.zipIdx := ⟨_, hturns⟩
  exact {
    scheduled := scheduled_serve
    one_running := hsound.permits
    running := by
      intro c hc
      refine getElem?_serve_of_mem (hforetold.subset ?_)
      exact List.mem_append_left _ (List.mem_append_right _ (List.mem_map.mpr ⟨c, hc, rfl⟩))
    answered := fun i reply hreply => getElem?_serve_of_answered hsorted hrun hreply
    answered_once := by
      have hnodup := hnumbers.nodup_iff.mpr List.nodup_range
      rw [Slot.foretold, List.map_append, List.map_append, List.append_assoc] at hnodup
      exact (List.nodup_append.mp hnodup).1
    called_once := callers_pairwise.sublist hbegin.sublist
    called := fun i hi => mem_callers_iff.mp (hbegin.subset hi)
    moves_le := by
      have hlength := length_run hrun
      have hmost := movesLeft_le limit (Slot.opened requests)
      simp only [Slot.opened, List.length_zipIdx, List.length_nil] at hlength hmost
      omega
    complete := by
      intro hstuck
      constructor
      · exact fun i hi => mem_answered_of_stuck hsorted hrun hstuck hi
      · exact fun i r key hr hkey => mem_called_of_stuck hsorted hrun hstuck hr hkey }

/-- Three requests at once, the first of them malformed. -/
def crowd : List Request := [⟨0, "x"⟩, ⟨0, "a__b__c"⟩, ⟨0, "a__b__c"⟩]

/-- A history whose first call takes longer than the others. -/
def hesitant (made : Nat) (_ : String) : Call :=
  ⟨if made = 0 then 20 else 5, .ok []⟩

/-- A run in which the first call is given up after ten units of time and the second is not. -/
theorem exists_run_crowd : ∃ s, Run 10 hesitant (Slot.opened crowd) 9 s ∧ s.Over := by
  have hmalformed : Category.parse? "x" = none := by decide +kernel
  have hkey : Category.parse? "a__b__c" = some ⟨"a", "b", "c"⟩ := by decide +kernel
  have hwait : ∀ {s : Slot} {c : Running}, s.running = [c] → s.coming = [] → s.permits = 0 →
      s.now < c.finish 10 → Move 10 hesitant s { s with now := c.finish 10 } := by
    intro s c hrunning hcoming hpermits hlater
    refine .wait (Or.inr hpermits) hlater (Or.inr ⟨c, hrunning ▸ List.mem_singleton_self c, rfl⟩) ?_
    rintro other (⟨x, hx, -⟩ | ⟨c', hc', rfl⟩)
    · rw [hcoming] at hx
      cases hx
    · rw [hrunning] at hc'
      cases List.mem_singleton.mp hc'
      exact Nat.le_refl _
  refine ⟨_, .move (.move (.move (.move (.move (.move (.move (.move (.move (.stop _)
    (.refuse rfl rfl hmalformed)) (.join rfl rfl hkey)) (.join rfl rfl hkey)) (.acquire rfl rfl))
    (hwait rfl rfl rfl ?_)) (.expire (rfl : _ = [] ++ _ :: []) rfl ?_)) (.acquire rfl rfl))
    (hwait rfl rfl rfl ?_)) (.reply (rfl : _ = [] ++ _ :: []) rfl ?_), rfl, rfl, rfl⟩
  · decide
  · decide
  · decide
  · decide

/-- Three requests are served one after the other. -/
theorem served_of_run_crowd : crowd.Pairwise (fun a b => a.arrival ≤ b.arrival) ∧
    ∃ s, Run 10 hesitant (Slot.opened crowd) 9 s ∧ s.Over ∧ Served 10 hesitant crowd 9 s := by
  have hsorted : crowd.Pairwise (fun a b => a.arrival ≤ b.arrival) := by decide
  obtain ⟨s, hrun, hover⟩ := exists_run_crowd
  exact ⟨hsorted, s, hrun, hover, served_of_run hsorted hrun⟩

end SpotForecast.History
