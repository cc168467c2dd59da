import SpotForecast.Fault
import SpotForecast.Text.Pieces

/-!
# Files

What the program needs of a file system: to read a text, and to know whether a path leads
anywhere.  `Files m` offers this in a monad `m`, so that the commands can run on real files and on
a `FileTree` alike.
-/

namespace SpotForecast

/-- Why a file could not be read. -/
inductive FileFault where
  | missing
  | notDirectory
  | isDirectory
  | nameTooLong
  | zeroInName
  | notText
  | other (text : String)
deriving DecidableEq, Repr

namespace FileFault

/-- The wording of a fault. -/
def message : FileFault → String
  | missing => "No such file or directory (os error 2)"
  | notDirectory => "Not a directory (os error 20)"
  | isDirectory => "Is a directory (os error 21)"
  | nameTooLong => "File name too long (os error 36)"
  | zeroInName => "file name contained an unexpected NUL byte"
  | notText => "stream did not contain valid UTF-8"
  | other text => text

/-- The fault as one of a source that reads the file at a path. -/
def toSource (path : String) : FileFault → SourceFault
  | missing => .notFound path
  | e => .io (path ++ ": " ++ e.message)

end FileFault

/-- A way to look at files. -/
structure Files (m : Type → Type) where
  read : String → m (Except FileFault String)
  /-- The characters of the file at a path, with nothing for every run of bytes that is no
  character. -/
  readRough : String → m (Except FileFault (List (Option Char)))
  isFile : String → m Bool
  isPresent : String → m Bool

/-- A path inside a directory; an absolute path stays as it is. -/
def joinPath (directory path : String) : String :=
  if path.toList.head? = some '/' ∨ directory = "" then path
  else if directory.toList.getLast? = some '/' then directory ++ path
  else directory ++ "/" ++ path

end SpotForecast
