import SpotForecast.Toml.Scalar

/-!
# Reading TOML

`Toml.parse` reads a whole settings file: headers in brackets, members `key = value` one to a line,
and comments.  Nothing is read if there is anything wrong anywhere, repeated keys included.

Arrays and tables between braces may be nested up to `nestingLimit`, and a key may have as many
parts.

Every step of the readers with fuel takes at least one character or ends, so fuel for two steps per
character is never used up.
-/

namespace SpotForecast.Toml

/-- A text without the blanks at its start. -/
def dropSpaces (cs : List Char) : List Char :=
  cs.dropWhile isSpace

/-- Skips blanks, line ends and comments; nothing if there is a control character among them. -/
def gap (inComment : Bool) : List Char → Option (List Char)
  | [] => some []
  | '\r' :: '\n' :: rest => gap false rest
  | c :: rest =>
    if c = '\n' then gap false rest
    else if inComment then if isControl c then none else gap true rest
    else if isSpace c then gap false rest
    else if c = '#' then gap true rest
    else some (c :: rest)

/-- Skips what may stand behind a value or a header: blanks and a comment, up to the end of the
line. -/
def restOfLine (inComment : Bool) : List Char → Option (List Char)
  | [] => some []
  | '\r' :: '\n' :: rest => some rest
  | c :: rest =>
    if c = '\n' then some rest
    else if inComment then if isControl c then none else restOfLine true rest
    else if isSpace c then restOfLine false rest
    else if c = '#' then restOfLine true rest
    else none

/-- A character of a key without quotation marks. -/
def isKeyChar (c : Char) : Bool :=
  c.isAlphanum || c == '_' || c == '-'

/-- A part of a key, and what follows. -/
def keyPart (cs : List Char) : Option (String × List Char) :=
  match cs with
  | '"' :: rest => (basic rest).map (fun (s, rest) => (String.ofList s, rest))
  | '\'' :: rest => (literal rest).map (fun (s, rest) => (String.ofList s, rest))
  | _ =>
    let part := cs.takeWhile isKeyChar
    if part.isEmpty then none else some (String.ofList part, cs.dropWhile isKeyChar)

/-- The greatest number of arrays and tables between braces inside each other, and of parts of a
key. -/
def nestingLimit : Nat := 79

/-- Parts of a key with points between them, and what follows; there are at most as many parts as
the first argument says. -/
def keyParts : Nat → List Char → Option (List String × List Char)
  | 0, _ => none
  | more + 1, cs => do
    let (part, rest) ← keyPart (dropSpaces cs)
    match dropSpaces rest with
    | '.' :: rest => do
      let (parts, rest) ← keyParts more rest
      pure (part :: parts, rest)
    | rest => pure ([part], rest)

/-- A key, and what follows. -/
def key (cs : List Char) : Option (List String × List Char) :=
  keyParts nestingLimit cs

mutual

/-- A value, and what follows; `depth` arrays and tables may be opened inside each other. -/
def value (depth : Nat) : Nat → List Char → Option (Toml × List Char)
  | 0, _ => none
  | fuel + 1, cs =>
    match cs with
    | '"' :: '"' :: '"' :: rest =>
      (multiBasic false (dropLineEnd rest)).map (fun (s, rest) => (.string (String.ofList s), rest))
    | '"' :: rest => (basic rest).map (fun (s, rest) => (.string (String.ofList s), rest))
    | '\'' :: '\'' :: '\'' :: rest =>
      (multiLiteral (dropLineEnd rest)).map (fun (s, rest) => (.string (String.ofList s), rest))
    | '\'' :: rest => (literal rest).map (fun (s, rest) => (.string (String.ofList s), rest))
    | '[' :: rest => if depth = 0 then none else items (depth - 1) fuel [] rest
    | '\x7b' :: rest =>
      if depth = 0 then none
      else
        match dropSpaces rest with
        | '\x7d' :: rest => some (.table .closed [], rest)
        | rest => members (depth - 1) fuel [] rest
    | _ =>
      let (word, rest) := spanScalar cs
      (ofWord word).map (fun v => (v, rest))

/-- The items of an array after those that were read, the last one first, and what follows. -/
def items (depth : Nat) : Nat → List Toml → List Char → Option (Toml × List Char)
  | 0, _, _ => none
  | fuel + 1, done, cs => do
    match ← gap false cs with
    | ']' :: rest => pure (.array done.reverse, rest)
    | cs => do
      let (v, rest) ← value depth fuel cs
      match ← gap false rest with
      | ',' :: rest => items depth fuel (v :: done) rest
      | ']' :: rest => pure (.array (v :: done).reverse, rest)
      | _ => none

/-- The members of a table between braces after those that were read, and what follows. -/
def members (depth : Nat) : Nat → Members → List Char → Option (Toml × List Char)
  | 0, _, _ => none
  | fuel + 1, done, cs => do
    let (path, rest) ← key cs
    match rest with
    | '=' :: rest => do
      let (v, rest) ← value depth fuel (dropSpaces rest)
      let done ← assign path v done
      match dropSpaces rest with
      | ',' :: rest => members depth fuel done rest
      | '\x7d' :: rest => pure (.table .closed done, rest)
      | _ => none
    | _ => none

end

/-- The members of a file after those that were read below the last header. -/
def statements : Nat → List String → Members → List Char → Option Members
  | 0, _, _, _ => none
  | fuel + 1, header, done, cs => do
    match ← gap false cs with
    | [] => pure done
    | '[' :: '[' :: rest => do
      let (path, rest) ← key rest
      match rest with
      | ']' :: ']' :: rest => do
        statements fuel path (← openRepeated path done) (← restOfLine false rest)
      | _ => none
    | '[' :: rest => do
      let (path, rest) ← key rest
      match rest with
      | ']' :: rest => do
        statements fuel path (← openTable path done) (← restOfLine false rest)
      | _ => none
    | cs => do
      let (path, rest) ← key cs
      match rest with
      | '=' :: rest => do
        let (v, rest) ← value nestingLimit (2 * (fuel + 1)) (dropSpaces rest)
        statements fuel header (← assignBelow header path v done) (← restOfLine false rest)
      | _ => none

/-- The members of a settings file.  A mark for the order of bytes at its start does not count. -/
def parse (text : String) : Option Members :=
  let cs := match text.toList with
    | '\ufeff' :: rest => rest
    | cs => cs
  statements (cs.length + 2) [] [] cs

end SpotForecast.Toml
