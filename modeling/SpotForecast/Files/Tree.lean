import SpotForecast.Files.Basic
import SpotForecast.Text.Utf8

/-!
# Trees of files

A tree of files below a working directory, as a value.  Paths are followed part by part: every
part but the last has to be a directory, `.` stays, and `..` goes back.

Outside the working directory there are the directories above it, and a few others that every
system has; nothing else is known to be there.
-/

namespace SpotForecast

/-- What stands at a place of a tree. -/
inductive FileEntry where
  | directory
  | text (content : String)
  /-- A file that is no text: its characters, and nothing for every run of bytes that is none. -/
  | binary (content : List (Option Char))
  | device
deriving DecidableEq, Repr

/-- The entry for a file with these bytes. -/
def FileEntry.ofBytes (bytes : List Nat) : FileEntry :=
  let content := Text.Utf8.decode bytes
  match Text.Utf8.text? content with
  | some s => .text s
  | none => .binary content

/-- A tree of files: the entry at every place, places being lists of names. -/
structure FileTree where
  entries : List (List String × FileEntry)
deriving DecidableEq, Repr

namespace FileTree

/-- The working directory with nothing in it. -/
def empty : FileTree := ⟨[([], .directory)]⟩

/-- A place that a path leads to. -/
inductive Place where
  | inside (names : List String)
  /-- A place that is named from the root of the system. -/
  | rooted (names : List String)
  | above
  /-- A place that is named from a directory above the working directory. -/
  | elsewhere
deriving DecidableEq, Repr

/-- Directories of every system. -/
def systemDirectories : List String :=
  ["bin", "dev", "etc", "home", "lib", "proc", "root", "sys", "tmp", "usr", "var"]

/-- What a system has at a place that is named from its root. -/
def systemEntry? : List String → Option FileEntry
  | [] => some .directory
  | [name] => if name ∈ systemDirectories then some .directory else none
  | ["dev", "null"] => some .device
  | _ => none

/-- The entry at a place. -/
def at? (t : FileTree) : Place → Option FileEntry
  | .inside names => t.entries.lookup names
  | .rooted names => systemEntry? names
  | .above => some .directory
  | .elsewhere => none

/-- The place one level above a directory. -/
def Place.parent : Place → Place
  | .inside [] => .above
  | .inside names => .inside names.dropLast
  | .rooted names => .rooted names.dropLast
  | p => p

/-- The place with a name in a directory. -/
def Place.child (name : String) : Place → Place
  | .inside names => .inside (names ++ [name])
  | .rooted names => .rooted (names ++ [name])
  | _ => .elsewhere

/-- The parts of a path; empty parts and single dots do not count. -/
def parts (path : String) : List String :=
  ((Text.pieces (· == '/') path.toList).map String.ofList).filter (fun p => p != "" && p != ".")

/-- Whether a path asks for a directory by its end. -/
def endsInDirectory (path : String) : Bool :=
  match ((Text.pieces (· == '/') path.toList).getLast?).map String.ofList with
  | some last => last == "" || last == "."
  | none => false

/-- The number of bytes that a name may have. -/
def nameLimit : Nat := 255

/-- The number of bytes that a path may have. -/
def pathLimit : Nat := 4095

/-- Follows the parts of a path from a place. -/
def follow (t : FileTree) (place : Place) : List String → Except FileFault Place
  | [] => .ok place
  | part :: rest =>
    match t.at? place with
    | some .directory =>
      if nameLimit < part.utf8ByteSize then .error .nameTooLong
      else t.follow (if part = ".." then place.parent else place.child part) rest
    | some _ => .error .notDirectory
    | none => .error .missing

/-- Where a path starts. -/
def start (path : String) : Place :=
  if path.toList.head? = some '/' then .rooted [] else .inside []

/-- The entry that a path leads to. -/
def find (t : FileTree) (path : String) : Except FileFault FileEntry :=
  if '\x00' ∈ path.toList then .error .zeroInName
  else if path = "" then .error .missing
  else if pathLimit < path.utf8ByteSize then .error .nameTooLong
  else
    match t.follow (start path) (parts path) with
    | .error e => .error e
    | .ok place =>
      match t.at? place with
      | none => .error .missing
      | some .directory => .ok .directory
      | some e => if endsInDirectory path then .error .notDirectory else .ok e

/-- The text of the file that a path leads to. -/
def read (t : FileTree) (path : String) : Except FileFault String :=
  match t.find path with
  | .error e => .error e
  | .ok .directory => .error .isDirectory
  | .ok (.binary _) => .error .notText
  | .ok (.text content) => .ok content
  | .ok .device => .ok ""

/-- The characters of the file that a path leads to. -/
def readRough (t : FileTree) (path : String) : Except FileFault (List (Option Char)) :=
  match t.find path with
  | .error e => .error e
  | .ok .directory => .error .isDirectory
  | .ok (.binary content) => .ok content
  | .ok (.text content) => .ok (content.toList.map some)
  | .ok .device => .ok []

/-- Whether a path leads to a file. -/
def isFile (t : FileTree) (path : String) : Bool :=
  match t.find path with
  | .ok (.text _) => true
  | .ok (.binary _) => true
  | _ => false

/-- Whether a path leads anywhere. -/
def isPresent (t : FileTree) (path : String) : Bool :=
  match t.find path with
  | .ok _ => true
  | .error _ => false

/-- A tree with directories at all places above a place. -/
def withParents (t : FileTree) (place : List String) : FileTree :=
  ((List.range place.length).map place.take).foldl
    (fun t above =>
      if (t.entries.lookup above).isSome then t else ⟨(above, .directory) :: t.entries⟩) t

/-- A tree with an entry at a path, and the directories above it. -/
def insert (t : FileTree) (path : String) (e : FileEntry) : FileTree :=
  let place := parts path
  let t := t.withParents place
  ⟨(place, e) :: t.entries.filter (fun entry => entry.1 != place)⟩

/-- A tree without the file at a path; directories stay. -/
def remove (t : FileTree) (path : String) : FileTree :=
  if t.isFile path then
    match t.follow (start path) (parts path) with
    | .ok (.inside place) => ⟨t.entries.filter (fun entry => entry.1 != place)⟩
    | _ => t
  else t

/-- A tree as files that nobody changes. -/
def files (t : FileTree) : Files Id where
  read path := t.read path
  readRough path := t.readRough path
  isFile path := t.isFile path
  isPresent path := t.isPresent path

end FileTree

end SpotForecast
