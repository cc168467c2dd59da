import SpotForecast.Program
import SpotForecast.Text.Utf8
import Std.Time.DateTime.Timestamp

/-!
# The executable

Real files, the environment and the clock for `Program.run`.
-/

namespace SpotForecast

/-- The code with which the system refuses a path that leads through a file. -/
def notDirectoryCode : UInt32 := 20

/-- The code with which the system refuses to read a directory. -/
def isDirectoryCode : UInt32 := 21

/-- The code with which the system refuses a path that is too long. -/
def nameTooLongCode : UInt32 := 36

/-- What an error of the system with a code and a wording says about a file.  Some calls of the
system negate the code. -/
def FileFault.ofCode (code : UInt32) (details : String) : FileFault :=
  if code = notDirectoryCode ∨ code = -notDirectoryCode then .notDirectory
  else if code = isDirectoryCode ∨ code = -isDirectoryCode then .isDirectory
  else if code = nameTooLongCode ∨ code = -nameTooLongCode then .nameTooLong
  else .other details

/-- What an error of the system says about a file. -/
def FileFault.ofError : IO.Error → FileFault
  | .noFileOrDirectory _ _ _ => .missing
  | .inappropriateType _ code details => FileFault.ofCode code details
  | .invalidArgument _ code details => FileFault.ofCode code details
  | .resourceExhausted _ code details => FileFault.ofCode code details
  | e => .other (toString e)

/-- The bytes of a real file. -/
def readBytes (path : String) : IO (Except FileFault ByteArray) := do
  if '\x00' ∈ path.toList then pure (.error .zeroInName)
  else
    try
      let bytes ← IO.FS.readBinFile path
      pure (.ok bytes)
    catch e => pure (.error (FileFault.ofError e))

/-- The text of a real file. -/
def readText (path : String) : IO (Except FileFault String) := do
  match ← readBytes path with
  | .ok bytes =>
    match String.fromUTF8? bytes with
    | some text => pure (.ok text)
    | none => pure (.error .notText)
  | .error e => pure (.error e)

/-- Real files. -/
def realFiles : Files IO where
  read := readText
  readRough path := do
    match ← readBytes path with
    | .ok bytes => pure (.ok (Text.Utf8.decode (bytes.toList.map (·.toNat))))
    | .error e => pure (.error e)
  isFile path := do
    match ← readBytes path with
    | .ok _ => pure true
    | .error _ => pure false
  isPresent path := do
    match ← readBytes path with
    | .ok _ => pure true
    | .error .isDirectory => pure true
    | .error (.other _) => pure true
    | .error _ => pure false

/-- The variable that a text `NAME=value` stands for. -/
def variableOf (cs : List Char) : String × String :=
  (String.ofList (cs.takeWhile (· != '=')), String.ofList ((cs.dropWhile (· != '=')).drop 1))

/-- The variables of this process. -/
def realEnvironment : IO Environment := do
  match ← readText "/proc/self/environ" with
  | .ok text =>
    let entries := (Text.pieces (· == '\x00') text.toList).filter (fun e => !e.isEmpty)
    pure (entries.map variableOf)
  | .error _ => pure []

/-- The present. -/
def present : IO Instant := do
  let t ← Std.Time.Timestamp.now
  let nanos := t.toNanosecondsSinceUnixEpoch.val
  pure ⟨nanos / 1000000000, (nanos % 1000000000).toNat⟩

end SpotForecast

open SpotForecast

/-- Runs the program. -/
def main (args : List String) : IO UInt32 := do
  let exit ← Program.run realFiles (← realEnvironment) (← present) args
  IO.print exit.output
  IO.eprint exit.complaint
  pure exit.code.toUInt32
