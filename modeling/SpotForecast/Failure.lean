import SpotForecast.Fault
import SpotForecast.Files.Basic

/-!
# Failures of commands

A command fails for one cause.  What it was doing is put in front of the cause, the outermost
activity first.
-/

namespace SpotForecast

/-- Why a command failed. -/
inductive Cause where
  | file (e : FileFault)
  | source (e : SourceFault)
  | forecast (e : ForecastFault)
  | setup (e : SetupFault)
  | refusal (text : String)
deriving DecidableEq, Repr

/-- The wording of a cause. -/
def Cause.message : Cause → String
  | .file e => e.message
  | .source e => e.message
  | .forecast e => e.message
  | .setup e => e.message
  | .refusal text => text

/-- The failure of a command. -/
structure Failure where
  /-- What the command was doing, the outermost activity first. -/
  doing : List String
  cause : Cause
deriving DecidableEq, Repr

namespace Failure

/-- A failure for a cause that speaks for itself. -/
def of (c : Cause) : Failure := ⟨[], c⟩

/-- A failure during an activity. -/
def during (activity : String) (c : Cause) : Failure := ⟨[activity], c⟩

/-- The wording of a failure. -/
def message (f : Failure) : String :=
  ": ".intercalate (f.doing ++ [f.cause.message])

end Failure

/-- A computation in `m` that may fail or end with an abort. -/
abbrev Command (m : Type → Type) := ExceptT (Stop Failure) m

namespace Command

variable {m : Type → Type} [Monad m] {ε α : Type}

/-- A result, with its fault as the cause of a failure. -/
def orFail (toFailure : ε → Failure) : Except ε α → Command m α
  | .ok a => pure a
  | .error e => throw (.fault (toFailure e))

/-- A result that may be an abort, with its fault as the cause of a failure. -/
def orStop (toFailure : ε → Failure) : Except (Stop ε) α → Command m α
  | .ok a => pure a
  | .error (.fault e) => throw (.fault (toFailure e))
  | .error (.abort a) => throw (.abort a)

end Command

end SpotForecast
