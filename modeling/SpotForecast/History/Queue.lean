import SpotForecast.History.Window

/-!
# Fetching one at a time

Requests for price history share a single slot.  They get it in the order in which they arrive, and
each of them holds it for one call of the history, for the time limit at most.

* A request whose category is no category key is answered at once with nothing; it neither waits
  nor calls.
* A call that takes no longer than the limit gives its own result, a longer one a timeout.
* `Queue.serve` says when every request gets the slot and when it is answered; times are in
  milliseconds.  The limit counts from the moment at which the request gets the slot.
-/

namespace SpotForecast.History

/-- What a history has to say to a call: after how long, and what. -/
structure Call where
  duration : Nat
  outcome : Except (Stop SourceFault) (List Observation)

/-- The longest time for which a history can wait before it answers: thirty years of 365 days. -/
def longestWait : Nat := 946080000000

/-- A call whose history waits before it answers. -/
def Call.after (wait : Nat) (outcome : Except (Stop SourceFault) (List Observation)) : Call :=
  ⟨min wait longestWait, outcome⟩

/-- A request for the history of a category. -/
structure Request where
  arrival : Nat
  category : String

/-- How a request fared. -/
structure Reply where
  /-- When it got the slot, if it needed it. -/
  start? : Option Nat
  finish : Nat
  outcome : Except (Stop SourceFault) (List Observation)

/-- The fault of a call that takes too long. -/
def timeoutFault (limit : Nat) (category : String) : SourceFault :=
  .timeout ("history fetch for " ++ category ++ " exceeded " ++ toString limit ++ "ms")

/-- The answer to a call that may take no longer than a limit. -/
def Call.within (limit : Nat) (category : String) (call : Call) :
    Except (Stop SourceFault) (List Observation) :=
  if call.duration ≤ limit then call.outcome
  else .error (.fault (timeoutFault limit category))

/-- How requests fare that arrive in this order, if the slot is free from `free` on and `made` calls
have been made; `history` answers the call with a number. -/
def serveFrom (limit : Nat) (history : Nat → String → Call) (free made : Nat) :
    List Request → List Reply
  | [] => []
  | r :: rest =>
    match Category.parse? r.category with
    | none => ⟨none, r.arrival, .ok []⟩ :: serveFrom limit history free made rest
    | some _ =>
      let call := history made r.category
      let start := max r.arrival free
      let finish := start + min call.duration limit
      ⟨some start, finish, call.within limit r.category⟩ ::
        serveFrom limit history finish (made + 1) rest

/-- How requests fare that arrive in this order. -/
def serve (limit : Nat) (history : Nat → String → Call) (requests : List Request) : List Reply :=
  serveFrom limit history 0 0 requests

/-- The number of calls that were made for some replies. -/
def callCount (replies : List Reply) : Nat :=
  (replies.filter (fun r => r.start?.isSome)).length

/-- Whether a reply's call was running at a moment. -/
def Reply.runsAt (moment : Nat) (r : Reply) : Bool :=
  match r.start? with
  | none => false
  | some start => start ≤ moment && moment < r.finish

/-- The number of calls that were running when the call of a reply was made, that call included. -/
def besides (replies : List Reply) (r : Reply) : Nat :=
  match r.start? with
  | none => 0
  | some start => max 1 (replies.filter (Reply.runsAt start)).length

/-- The greatest number of calls that were running at once. -/
def peak (replies : List Reply) : Nat :=
  replies.foldl (fun most r => max most (besides replies r)) 0

/-- The answer to a single request, with the slot free. -/
def fetchWithin (limit : Nat) (category : String) (call : Call) :
    Except (Stop SourceFault) (List Observation) :=
  match Category.parse? category with
  | none => .ok []
  | some _ => call.within limit category

end SpotForecast.History
