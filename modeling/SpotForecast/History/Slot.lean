import SpotForecast.History.Queue

/-!
# The slot, move by move

Requests for price history share a semaphore with one permit.  `Slot` is the state they share, and
`Move` says what can happen next:

* A request arrives.  If its category is no category key it is answered with nothing; otherwise it
  joins the line of those that wait for a permit.
* The request that waits longest takes a permit, if there is one, and calls the history.
* The call is over within the limit and gives its own result, or the limit passes and it is given
  up.  Either way the permit is put back.
* Time passes, up to the next arrival or the next end of a call, when nothing can be done before.

Simultaneous moves of different requests may come in any order.  The semaphore is never closed, so
waiting for a permit cannot fail.
-/

namespace SpotForecast.History

/-- A call of the history that is running. -/
structure Running where
  number : Nat
  request : Request
  start : Nat
  call : Call

/-- The moment at which a running call is over or given up. -/
def Running.finish (limit : Nat) (c : Running) : Nat :=
  c.start + min c.call.duration limit

/-- Requests with their numbers, and what they share. -/
structure Slot where
  now : Nat
  /-- The requests that have not arrived, the next one first. -/
  coming : List (Request × Nat)
  /-- The requests that wait for a permit, the longest waiting first. -/
  line : List (Request × Nat)
  permits : Nat
  running : List Running
  called : List Nat
  answered : List (Nat × Reply)

/-- The state before any request has arrived. -/
def Slot.opened (requests : List Request) : Slot :=
  ⟨0, requests.zipIdx, [], 1, [], [], []⟩

/-- Something is due at a moment: an arrival or the end of a call. -/
def Slot.Due (limit : Nat) (s : Slot) (moment : Nat) : Prop :=
  (∃ x ∈ s.coming, x.1.arrival = moment) ∨ ∃ c ∈ s.running, c.finish limit = moment

/-- What can happen next. -/
inductive Move (limit : Nat) (history : Nat → String → Call) : Slot → Slot → Prop where
  | refuse {s : Slot} {r : Request} {i : Nat} {rest : List (Request × Nat)}
      (hcoming : s.coming = (r, i) :: rest) (hnow : s.now = r.arrival)
      (hkey : Category.parse? r.category = none) :
      Move limit history s
        { s with coming := rest, answered := s.answered ++ [(i, ⟨none, s.now, .ok []⟩)] }
  | join {s : Slot} {r : Request} {i : Nat} {key : Category} {rest : List (Request × Nat)}
      (hcoming : s.coming = (r, i) :: rest) (hnow : s.now = r.arrival)
      (hkey : Category.parse? r.category = some key) :
      Move limit history s { s with coming := rest, line := s.line ++ [(r, i)] }
  | acquire {s : Slot} {r : Request} {i permits : Nat} {rest : List (Request × Nat)}
      (hline : s.line = (r, i) :: rest) (hpermits : s.permits = permits + 1) :
      Move limit history s
        { s with line := rest, permits := permits, called := s.called ++ [i],
                 running := s.running ++ [⟨i, r, s.now, history s.called.length r.category⟩] }
  | reply {s : Slot} {c : Running} {before after : List Running}
      (hrunning : s.running = before ++ c :: after) (hnow : s.now = c.start + c.call.duration)
      (hlimit : c.call.duration ≤ limit) :
      Move limit history s
        { s with running := before ++ after, permits := s.permits + 1,
                 answered := s.answered ++ [(c.number, ⟨some c.start, s.now, c.call.outcome⟩)] }
  | expire {s : Slot} {c : Running} {before after : List Running}
      (hrunning : s.running = before ++ c :: after) (hnow : s.now = c.start + limit)
      (hlimit : limit < c.call.duration) :
      Move limit history s
        { s with running := before ++ after, permits := s.permits + 1,
                 answered := s.answered ++ [(c.number, ⟨some c.start, s.now,
                   .error (.fault (timeoutFault limit c.request.category))⟩)] }
  /-- Nobody can take a permit, nothing is due, and time passes up to what is due next. -/
  | wait {s : Slot} {moment : Nat} (hline : s.line = [] ∨ s.permits = 0)
      (hlater : s.now < moment) (hdue : s.Due limit moment)
      (hfirst : ∀ other, s.Due limit other → moment ≤ other) :
      Move limit history s { s with now := moment }

/-- A number of moves, one after the other. -/
inductive Run (limit : Nat) (history : Nat → String → Call) : Slot → Nat → Slot → Prop where
  | stop (s : Slot) : Run limit history s 0 s
  | move {s t u : Slot} {n : Nat} (hrun : Run limit history s n t)
      (hmove : Move limit history t u) : Run limit history s (n + 1) u

end SpotForecast.History
