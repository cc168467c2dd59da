import Mathlib.Data.List.Basic
import SpotForecast.History.Queue

/-!
# When calls start and end

`Scheduled` says how requests fare that share one slot: a malformed one is answered with nothing
when it arrives; any other starts when it has arrived and the one before it has ended, and ends
after the duration of its call or after the limit.  `scheduled_serve` says that `serve` finds just
that.
-/

namespace SpotForecast.History

variable {limit : Nat} {history : Nat → String → Call} {requests : List Request} {r : Request}
  {key : Category} {i free made : Nat}

/-- Whether a request needs the slot. -/
def Request.needsSlot (r : Request) : Bool :=
  (Category.parse? r.category).isSome

/-- How many requests that need the slot arrive before the one with a number. -/
def turn (requests : List Request) (i : Nat) : Nat :=
  ((requests.take i).filter Request.needsSlot).length

/-- The end before the one with a number; before the first of them is the beginning. -/
def previous (finish : Nat → Nat) : Nat → Nat
  | 0 => 0
  | k + 1 => finish k

/-- When the slot is free for the request with a number among those that need it. -/
def freeAt (limit : Nat) (history : Nat → String → Call) (turns : List Request) : Nat → Nat
  | 0 => 0
  | k + 1 =>
    match turns[k]? with
    | none => 0
    | some r =>
      max r.arrival (freeAt limit history turns k) + min (history k r.category).duration limit

theorem freeAt_succ {turns : List Request} {k : Nat} (h : turns[k]? = some r) :
    freeAt limit history turns (k + 1) =
      max r.arrival (freeAt limit history turns k) + min (history k r.category).duration limit := by
  rw [freeAt, h]

theorem filter_needsSlot_cons_malformed (h : Category.parse? r.category = none) :
    (r :: requests).filter Request.needsSlot = requests.filter Request.needsSlot :=
  List.filter_cons_of_neg (by simp [Request.needsSlot, h])

theorem filter_needsSlot_cons_wellFormed (h : Category.parse? r.category = some key) :
    (r :: requests).filter Request.needsSlot = r :: requests.filter Request.needsSlot :=
  List.filter_cons_of_pos (by simp [Request.needsSlot, h])

theorem turn_cons_malformed (h : Category.parse? r.category = none) :
    turn (r :: requests) (i + 1) = turn requests i := by
  rw [turn, List.take_succ_cons, filter_needsSlot_cons_malformed h]
  rfl

theorem turn_cons_wellFormed (h : Category.parse? r.category = some key) :
    turn (r :: requests) (i + 1) = turn requests i + 1 := by
  rw [turn, List.take_succ_cons, filter_needsSlot_cons_wellFormed h]
  rfl

theorem serveFrom_cons_malformed (h : Category.parse? r.category = none) :
    serveFrom limit history free made (r :: requests) =
      ⟨none, r.arrival, .ok []⟩ :: serveFrom limit history free made requests := by
  simp only [serveFrom, h]

theorem serveFrom_cons_wellFormed (h : Category.parse? r.category = some key) :
    serveFrom limit history free made (r :: requests) =
      ⟨some (max r.arrival free),
        max r.arrival free + min (history made r.category).duration limit,
        (history made r.category).within limit r.category⟩ ::
      serveFrom limit history
        (max r.arrival free + min (history made r.category).duration limit) (made + 1)
        requests := by
  simp only [serveFrom, h]

/-- A malformed request is answered when it arrives. -/
theorem serveFrom_malformed (hr : requests[i]? = some r)
    (hkey : Category.parse? r.category = none) :
    (serveFrom limit history free made requests)[i]? = some ⟨none, r.arrival, .ok []⟩ := by
  induction requests generalizing free made i with
  | nil => cases hr
  | cons first rest ih =>
      cases hfirst : Category.parse? first.category with
      | none =>
          rw [serveFrom_cons_malformed hfirst]
          cases i with
          | zero =>
              cases hr
              rfl
          | succ i => exact ih hr
      | some _ =>
          rw [serveFrom_cons_wellFormed hfirst]
          cases i with
          | zero =>
              cases hr
              cases hkey.symm.trans hfirst
          | succ i => exact ih hr

/-- Any other request gets the slot in its turn. -/
theorem serveFrom_wellFormed (limit : Nat) (history : Nat → String → Call) {turns : List Request}
    {k : Nat} (hturns : requests.filter Request.needsSlot = turns.drop k)
    (hr : requests[i]? = some r) (hkey : Category.parse? r.category = some key) :
    turns[k + turn requests i]? = some r ∧
      (serveFrom limit history (freeAt limit history turns k) k requests)[i]? =
        some ⟨some (max r.arrival (freeAt limit history turns (k + turn requests i))),
          freeAt limit history turns (k + turn requests i + 1),
          (history (k + turn requests i) r.category).within limit r.category⟩ := by
  induction requests generalizing k i with
  | nil => cases hr
  | cons first rest ih =>
      cases hfirst : Category.parse? first.category with
      | none =>
          cases i with
          | zero =>
              cases hr
              cases hkey.symm.trans hfirst
          | succ i =>
              rw [filter_needsSlot_cons_malformed hfirst] at hturns
              rw [turn_cons_malformed hfirst, serveFrom_cons_malformed hfirst]
              exact ih hturns hr
      | some firstKey =>
          rw [filter_needsSlot_cons_wellFormed hfirst] at hturns
          have hhead : turns[k]? = some first := by
            rw [← List.head?_drop, ← hturns, List.head?_cons]
          have htail : rest.filter Request.needsSlot = turns.drop (k + 1) := by
            rw [← List.tail_drop, ← hturns, List.tail_cons]
          -- the slot is free for the rest when the call of the first one ends
          rw [serveFrom_cons_wellFormed hfirst, ← freeAt_succ hhead]
          cases i with
          | zero =>
              cases hr
              exact ⟨hhead, rfl⟩
          | succ i =>
              have hadd : k + (turn rest i + 1) = k + 1 + turn rest i := by omega
              rw [turn_cons_wellFormed hfirst, hadd]
              exact ih htail hr

theorem serve_wellFormed (hr : requests[i]? = some r)
    (hkey : Category.parse? r.category = some key) :
    (requests.filter Request.needsSlot)[turn requests i]? = some r ∧
      (serve limit history requests)[i]? =
        some ⟨some (max r.arrival (freeAt limit history (requests.filter Request.needsSlot)
            (turn requests i))),
          freeAt limit history (requests.filter Request.needsSlot) (turn requests i + 1),
          (history (turn requests i) r.category).within limit r.category⟩ := by
  have hwhole : requests.filter Request.needsSlot =
      (requests.filter Request.needsSlot).drop 0 := rfl
  have hturn := serveFrom_wellFormed limit history hwhole hr hkey
  rwa [Nat.zero_add] at hturn

/-- Replies to requests that take turns with one slot. -/
structure Scheduled (limit : Nat) (history : Nat → String → Call) (requests : List Request)
    (replies : List Reply) : Prop where
  malformed : ∀ (i : Nat) (r : Request), requests[i]? = some r →
    Category.parse? r.category = none → replies[i]? = some ⟨none, r.arrival, .ok []⟩
  /-- A request with a category key has a start and an end by its turn, with the answer of its call
  if that ends before the limit and a timeout if it would end after it. -/
  wellFormed : ∃ start finish : Nat → Nat, ∀ (i : Nat) (r : Request) (key : Category),
    requests[i]? = some r → Category.parse? r.category = some key →
      let k := turn requests i
      let call := history k r.category
      start k = max r.arrival (previous finish k) ∧
        finish k = start k + min call.duration limit ∧
        ∃ outcome, replies[i]? = some ⟨some (start k), finish k, outcome⟩ ∧
          (call.duration < limit → outcome = call.outcome) ∧
          (limit < call.duration → outcome = .error (.fault (.timeout ("history fetch for " ++
            r.category ++ " exceeded " ++ toString limit ++ "ms"))))

/-- **Turns.**  Requests are served one after the other, in the order in which they arrive. -/
theorem scheduled_serve : Scheduled limit history requests (serve limit history requests) where
  malformed _ _ hr hkey := serveFrom_malformed hr hkey
  wellFormed := by
    have hprevious : ∀ turns k, previous (fun k => freeAt limit history turns (k + 1)) k =
        freeAt limit history turns k := by
      rintro turns (_ | k) <;> rfl
    refine ⟨fun k => max (((requests.filter Request.needsSlot)[k]?).elim 0 Request.arrival)
      (freeAt limit history (requests.filter Request.needsSlot) k),
      fun k => freeAt limit history (requests.filter Request.needsSlot) (k + 1),
      fun i r key hr hkey => ?_⟩
    obtain ⟨hturn, hreply⟩ := serve_wellFormed hr hkey
    simp only [hprevious, hturn, Option.elim_some, true_and]
    refine ⟨freeAt_succ hturn, _, hreply, fun hlt => ?_, fun hlt => ?_⟩
    · rw [Call.within, if_pos (Nat.le_of_lt hlt)]
    · rw [Call.within, if_neg (Nat.not_le_of_lt hlt), timeoutFault]

theorem length_serveFrom : (serveFrom limit history free made requests).length =
    requests.length := by
  induction requests generalizing free made with
  | nil => rfl
  | cons r rest ih =>
      cases hkey : Category.parse? r.category with
      | none => rw [serveFrom_cons_malformed hkey, List.length_cons, List.length_cons, ih]
      | some key => rw [serveFrom_cons_wellFormed hkey, List.length_cons, List.length_cons, ih]

end SpotForecast.History
