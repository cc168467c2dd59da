import SpotForecast.Files.Basic
import SpotForecast.Json.Reader

/-!
# Sources of tree definitions

Where a cache gets definitions from: a directory with one JSON document per tree, or a list.
-/

namespace SpotForecast.TreeSource

/-- The path of the document of a tree. -/
def path (directory extension identifier : String) : String :=
  joinPath directory (identifier ++ "." ++ extension)

/-- The definition in a document. -/
def ofDocument (text : String) : Except SourceFault Json :=
  match Json.document text with
  | some v => .ok v
  | none => .error (.serialization "malformed document")

/-- The definitions in a directory. -/
def ofDirectory {m : Type → Type} [Monad m] (files : Files m) (directory extension : String)
    (identifier : String) : m (Except SourceFault Json) := do
  let place := path directory extension identifier
  match ← files.read place with
  | .ok text => pure (ofDocument text)
  | .error e => pure (.error (e.toSource place))

/-- The definitions of a list; of several under one name the last one counts. -/
def ofList (definitions : List (String × Json)) (identifier : String) :
    Except SourceFault Json :=
  match definitions.reverse.lookup identifier with
  | some v => .ok v
  | none => .error (.notFound ("tree definition: " ++ identifier))

end SpotForecast.TreeSource
