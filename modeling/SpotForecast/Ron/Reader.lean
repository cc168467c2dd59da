import SpotForecast.Ron.Scalar

/-!
# Reading object notation

`Ron.parse` reads a value in object notation with its blanks and comments.

* What stands between parentheses is a structure if a field with a colon comes first, and a tuple
  otherwise.  The name before it does not matter, and a name by itself is a unit.
* Maps may have any keys.
* A text may start with attributes; one of them lets an option be written without `Some`.
* Values may be inside each other up to a depth: every list, map, field and item is a step, and so
  is an option.
-/

namespace SpotForecast.Ron

/-- A blank. -/
def isSpace (c : Char) : Bool :=
  c == ' ' || c == '\t' || c == '\n' || c == '\r'

/-- Where the skipping of blanks and comments stands. -/
inductive GapState where
  | plain
  | line
  /-- In comments inside each other, of which this many have to be ended besides the inner one. -/
  | block (outer : Nat)
deriving DecidableEq, Repr

/-- A text without the blanks and comments at its start; a slash has to start a comment. -/
def gap : GapState → List Char → Option (List Char)
  | .plain, '/' :: '/' :: rest => gap .line rest
  | .plain, '/' :: '*' :: rest => gap (.block 0) rest
  | .plain, c :: rest =>
    if isSpace c then gap .plain rest else if c = '/' then none else some (c :: rest)
  | .line, c :: rest => if c = '\n' then gap .plain rest else gap .line rest
  | .block outer, '/' :: '*' :: rest => gap (.block (outer + 1)) rest
  | .block 0, '*' :: '/' :: rest => gap .plain rest
  | .block (outer + 1), '*' :: '/' :: rest => gap (.block outer) rest
  | .block outer, _ :: rest => gap (.block outer) rest
  | .block _, [] => none
  | _, [] => some []

/-- The words that stand for values by themselves. -/
def words : List (List Char × Ron) :=
  [("true".toList, .bool true), ("false".toList, .bool false), ("None".toList, .unit),
    ("inf".toList, .real Decimal.infinity), ("-inf".toList, .real (-Decimal.infinity)),
    ("NaN".toList, .real Decimal.notANumber)]

/-- A word, or a pair of parentheses with nothing between them, and what follows. -/
def word? (cs : List Char) : Option (Ron × List Char) :=
  match cs with
  | '(' :: ')' :: rest => some (.unit, rest)
  | _ => words.findSome? (fun (word, v) => (afterWord? word cs).map (fun rest => (v, rest)))

/-- Whether what follows an opening parenthesis is a tuple. -/
def isTuple (cs : List Char) : Option Bool :=
  match name? cs with
  | none => some true
  | some (_, rest) => do
    match ← gap .plain rest with
    | c :: _ => pure (c != ':')
    | [] => none

/-- A number, a string or a character, and what follows. -/
def scalar? (cs : List Char) : Option (Ron × List Char) :=
  match cs with
  | '"' :: rest => (string? (rest.length + 1) [] rest).map (fun (s, rest) => (.string s, rest))
  | 'r' :: rest => (rawString? rest).map (fun (s, rest) => (.string s, rest))
  | '\'' :: rest => (char? rest).map (fun (s, rest) => (.string s, rest))
  | _ => number? cs

/-- The greatest depth of a text. -/
def depthLimit : Nat := 128

/-- What the values at a place may be. -/
structure Rules where
  /-- Options may lack their word. -/
  bare : Bool
  /-- The number of steps that may be below a value. -/
  depth : Nat
deriving DecidableEq, Repr

/-- The rules one step below. -/
def Rules.below? (r : Rules) : Option Rules :=
  if r.depth = 0 then none else some { r with depth := r.depth - 1 }

mutual

/-- A value, and what follows.  Every second step takes a character, so fuel for three steps per
character is never used up. -/
def value (r : Rules) : Nat → List Char → Option (Ron × List Char)
  | 0, _ => none
  | fuel + 1, cs =>
    match afterWord? "Some".toList cs with
    | some rest => option r fuel rest
    | none =>
      match word? cs with
      | some found => some found
      | none =>
        match name? cs with
        | some (_, rest) => do structure? r fuel (← gap .plain rest)
        | none =>
          match cs with
          | '(' :: _ => structure? r fuel cs
          | '[' :: rest => do items (← r.below?) ']' fuel [] rest
          | '\x7b' :: rest => do members (← r.below?) false '\x7d' fuel [] rest
          | _ => scalar? cs

/-- What follows the word of an option: its value between parentheses, or perhaps without them. -/
def option (r : Rules) : Nat → List Char → Option (Ron × List Char)
  | 0, _ => none
  | fuel + 1, cs => do
    let r ← r.below?
    match ← gap .plain cs with
    | '(' :: rest => do
      let (v, rest) ← value r fuel (← gap .plain rest)
      let rest ← gap .plain rest
      let rest ← match rest with
        | ',' :: rest => gap .plain rest
        | rest => some rest
      match rest with
      | ')' :: rest => pure (.present v, rest)
      | _ => none
    | rest =>
      if r.bare then (value r fuel rest).map (fun (v, rest) => (.present v, rest)) else none

/-- A structure or a tuple in parentheses, and what follows; a unit if there are none. -/
def structure? (r : Rules) : Nat → List Char → Option (Ron × List Char)
  | 0, _ => none
  | fuel + 1, cs =>
    match cs with
    | '(' :: rest => do
      let inner ← gap .plain rest
      if ← isTuple inner then items (← r.below?) ')' fuel [] inner
      else members (← r.below?) true ')' fuel [] inner
    | rest => some (.unit, rest)

/-- The items of a list after those that were read, the last one first, and what follows. -/
def items (r : Rules) (close : Char) : Nat → List Ron → List Char → Option (Ron × List Char)
  | 0, _, _ => none
  | fuel + 1, done, cs => do
    match ← gap .plain cs with
    | [] => none
    | c :: rest =>
      if c = close then pure (.list done.reverse, rest)
      else
        let (v, rest) ← value (← r.below?) fuel (c :: rest)
        match ← gap .plain rest with
        | ',' :: rest => items r close fuel (v :: done) rest
        | c :: rest => if c = close then pure (.list (v :: done).reverse, rest) else none
        | [] => none

/-- The members of a map after those that were read, the last one first, and what follows; `fields`
says that its keys are names. -/
def members (r : Rules) (fields : Bool) (close : Char) :
    Nat → List (Ron × Ron) → List Char → Option (Ron × List Char)
  | 0, _, _ => none
  | fuel + 1, done, cs => do
    match ← gap .plain cs with
    | [] => none
    | c :: rest =>
      if c = close then pure (.map done.reverse, rest)
      else
        let inner ← r.below?
        let (k, rest) ←
          if fields then
            (name? (c :: rest)).map (fun (name, rest) => (.string (String.ofList name), rest))
          else value inner fuel (c :: rest)
        match ← gap .plain rest with
        | ':' :: rest => do
          let (v, rest) ← value inner fuel (← gap .plain rest)
          match ← gap .plain rest with
          | ',' :: rest => members r fields close fuel ((k, v) :: done) rest
          | c :: rest => if c = close then pure (.map ((k, v) :: done).reverse, rest) else none
          | [] => none
        | _ => none

end

/-- The name of the attribute that lets options lack their word. -/
def bareOptions : List Char := "implicit_some".toList

/-- The names of all attributes. -/
def attributes : List (List Char) :=
  [bareOptions, "unwrap_newtypes".toList, "unwrap_variant_newtypes".toList]

/-- What follows some words with blanks and comments behind each of them. -/
def afterWords : List (List Char) → List Char → Option (List Char)
  | [], cs => some cs
  | word :: more, cs =>
    if word.isPrefixOf cs then (gap .plain (cs.drop word.length)).bind (afterWords more) else none

/-- The names of attributes with commas between them, and what follows.  Every step takes a
character. -/
def attributeNames : Nat → List Char → Option (List (List Char) × List Char)
  | 0, _ => none
  | fuel + 1, cs => do
    let (name, rest) ← name? cs
    if name ∉ attributes then none
    else
      let rest ← gap .plain rest
      let more (cs : List Char) := cs.head?.any isNameChar
      match rest with
      | ',' :: rest => do
        let rest ← gap .plain rest
        if more rest then
          let (names, rest) ← attributeNames fuel rest
          pure (name :: names, rest)
        else pure ([name], rest)
      | rest => if more rest then none else pure ([name], rest)

/-- The names of all attributes at the start of a text, and what follows. -/
def header : Nat → List Char → Option (List (List Char) × List Char)
  | 0, _ => none
  | fuel + 1, cs =>
    if cs.head? = some '#' then do
      let rest ← afterWords ["#".toList, "!".toList, "[".toList, "enable".toList, "(".toList] cs
      let (names, rest) ← attributeNames (rest.length + 1) rest
      let (more, rest) ← header fuel (← afterWords [")".toList, "]".toList] rest)
      pure (names ++ more, rest)
    else some ([], cs)

/-- The value that a text denotes. -/
def parse (text : String) : Option Ron := do
  let cs ← gap .plain text.toList
  let (names, cs) ← header (cs.length + 1) cs
  let rules : Rules := ⟨decide (bareOptions ∈ names), depthLimit⟩
  let (v, rest) ← value rules (3 * cs.length + 3) cs
  match ← gap .plain rest with
  | [] => pure v
  | _ => none

end SpotForecast.Ron
