import SpotForecast.CommandLine
import SpotForecast.Printout
import SpotForecast.Settings.Load
import SpotForecast.Settings.Logging
import SpotForecast.Text.Utf8

/-!
# The program

`Program.run` is everything that the program does with its arguments, its environment and its files:
it reads the arguments, loads the settings, checks what they say about messages, and carries the
command out.

The exit code is 0 for success, 1 for a failure, 2 for arguments that are refused, and 101 for an
abort.  Forecasts are printed also when some of them failed.
-/

namespace SpotForecast.Program

/-- How the program ends. -/
structure Exit where
  code : Nat
  output : String
  /-- What is told to the operator. -/
  complaint : String
deriving DecidableEq, Repr

/-- The name of the program and its version. -/
def version : String := "pricecast 0.1.0\n"

/-- How the program is used. -/
def usage : String :=
  "Usage: pricecast [--config FILE] forecast|categories|resample|lags|inspect-tree [OPTIONS]\n"

variable {m : Type → Type} [Monad m]

/-- What a command prints, and the failure that it reports after that. -/
abbrev Printed := String × Option Failure

/-- The number of outcomes that are no forecasts. -/
def failedCount (outcomes : List Commands.Outcome) : Nat :=
  (outcomes.filter (fun o => match o.2 with
    | .ok _ => false
    | .error _ => true)).length

/-- What the command for forecasts prints. -/
def forecasts (outcomes : List Commands.Outcome) : Printed :=
  let failed := failedCount outcomes
  (String.join (outcomes.map Printout.outcome),
    if failed = 0 then none
    else some (Failure.of (.refusal (toString failed ++ " forecast(s) failed"))))

/-- Carries a command out. -/
def execute (files : Files m) (s : AppSettings) (now : Instant) :
    CommandLine.Request → Command m Printed
  | .forecast category all =>
    match category, all with
    | some category, false => do
      pure (forecasts (← Commands.forecast files s now (.one category)))
    | none, true => do pure (forecasts (← Commands.forecast files s now .all))
    | _, _ =>
      throw (.fault (Failure.of (.refusal "Specify either --category <key> or --all")))
  | .categories => do pure (Printout.categories (← Commands.listCategories files s), none)
  | .resample input tail => do pure (← Commands.resample files s input tail, none)
  | .lags input category tail => do
    let (report, table) ← Commands.lags files s input category tail
    pure (Printout.lags s.forecast.numLags report table, none)
  | .inspectTree identifier => do
    let t ← Commands.inspectTree files s identifier
    pure (Printout.tree s.forecast.numLags t, none)

/-- The name of the variable with the operator's own filter for messages. -/
def filterVariable : String := "RUST_LOG"

/-- Loads the settings, checks them, and carries a command out. -/
def serve (files : Files m) (env : Environment) (now : Instant) (i : CommandLine.Invocation) :
    Command m Printed := do
  let s ← loadSettings files env i.settings
  Command.orStop (fun e => Failure.during "Failed to initialize logging" (.setup e))
    (Logging.check (env.lookup filterVariable) s.logging.level s.logging.format)
  execute files s now i.request

/-- The places where a file with variables may be: the working directory and those above it. -/
def variableFiles : List String :=
  (List.range 32).map (fun n => String.join (List.replicate n "../") ++ ".env")

/-- The first of some paths that leads to a file. -/
def firstFile (files : Files m) : List String → m (Option String)
  | [] => pure none
  | path :: rest => do if ← files.isFile path then pure (some path) else firstFile files rest

/-- The environment with the variables of the file for them, up to the first line of it that is no
text. -/
def fullEnvironment (files : Files m) (env : Environment) : m (Except Abort Environment) := do
  match ← firstFile files variableFiles with
  | none => pure (.ok env)
  | some path =>
    match ← files.readRough path with
    | .ok content => pure (env.load (Text.Utf8.readable content))
    | .error _ => pure (.ok env)

/-- The end of the program after a command. -/
def conclude : Except (Stop Failure) Printed → Exit
  | .ok (output, none) => ⟨0, output, ""⟩
  | .ok (output, some e) => ⟨1, output, "Error: " ++ e.message ++ "\n"⟩
  | .error (.fault e) => ⟨1, "", "Error: " ++ e.message ++ "\n"⟩
  | .error (.abort _) => ⟨101, "", ""⟩

/-- The name of the variable with the number of workers. -/
def workersVariable : String := "TOKIO_WORKER_THREADS"

/-- No program has as many workers as this. -/
def workerLimit : Nat := 1152921504606846976

/-- Whether a text is a number of workers; there has to be one. -/
def isWorkerCount (text : String) : Bool :=
  match Decimal.readNatural text.toList with
  | some n => 0 < n && n < workerLimit
  | none => false

/-- The program with all its variables. -/
def runIn (files : Files m) (env : Environment) (now : Instant) (args : List String) : m Exit :=
  match CommandLine.parse args with
  | .error .refused => pure ⟨2, "", usage⟩
  | .error .version => pure ⟨0, version, ""⟩
  | .error .help => pure ⟨0, usage, ""⟩
  | .ok i => do pure (conclude (← (serve files env now i).run))

/-- The whole program.  The number of workers is taken from the environment alone, before the file
with variables is read. -/
def run (files : Files m) (env : Environment) (now : Instant) (args : List String) : m Exit := do
  if (env.lookup workersVariable).all isWorkerCount then
    match ← fullEnvironment files env with
    | .error a => pure (conclude (.error (.abort a)))
    | .ok env => runIn files env now args
  else pure (conclude (.error (.abort .workerCount)))

end SpotForecast.Program
