import SpotForecast.Text.Blank
import SpotForecast.Text.Letters
import SpotForecast.Text.Radix

/-!
# Regular expressions

The values that a filter for messages asks for are regular expressions.  `Expression.isValid` says
whether a text is one that can be used; what it matches does not matter here.

* An expression has literals, the dot, anchors, classes in brackets, groups, alternatives and the
  repetitions `?`, `*` and `+`.  Counted repetitions, and names between braces, cannot occur in a
  filter, because it ends the expression at the closing brace.
* The letters `i`, `u` and `x` in a group set the case, the use of Unicode, and blanks and comments
  without meaning.  Tables of Unicode are not at hand: with Unicode there are no classes by letter,
  no boundaries of words, and in either case neither literals nor items of classes.
* Without Unicode, nothing may match a byte that is no ASCII character by itself.
* An expression is a tree of groups, alternatives, sequences, repetitions and classes.  Its height
  is at most `heightLimit`; literals, anchors and settings of letters have no height.
-/

namespace SpotForecast.Expression

/-- How an expression is read. -/
structure Mode where
  caseless : Bool
  unicode : Bool
  /-- Blanks and comments have no meaning. -/
  verbose : Bool
deriving DecidableEq, Repr

/-- How an expression is read at its start. -/
def Mode.start : Mode := ⟨false, true, false⟩

/-- A text without the blanks and comments at its start. -/
def afterSpace (inComment : Bool) : List Char → List Char
  | [] => []
  | c :: rest =>
    if inComment then afterSpace (c != '\n') rest
    else if Text.isBlank c then afterSpace false rest
    else if c = '#' then afterSpace true rest
    else c :: rest

/-- A text without what has no meaning at its start. -/
def Mode.skip (mode : Mode) (cs : List Char) : List Char :=
  if mode.verbose then afterSpace false cs else cs

/-- The character that a look past blanks comes to.  It passes over the number sign of a comment and
the blanks in it, but not over its text. -/
def lookPast (inComment : Bool) : List Char → Option Char
  | [] => none
  | c :: rest =>
    if Text.isBlank c then lookPast inComment rest
    else if !inComment ∧ c = '#' then lookPast true rest
    else some c

/-- The character that a look at what comes next finds. -/
def Mode.peek (mode : Mode) (cs : List Char) : Option Char :=
  if mode.verbose then lookPast false cs else cs.head?

/-- What stands for one place in a text. -/
inductive Atom where
  /-- A character; `byte` says that it was written as the number of a byte. -/
  | literal (c : Char) (byte : Bool)
  /-- A class by letter, or all characters that are not in it. -/
  | shorthand (negated : Bool)
  | boundary
  | anchor
deriving DecidableEq, Repr

/-- Whether an atom can be used outside of a class. -/
def Atom.isUsable (mode : Mode) : Atom → Bool
  | literal c byte => if mode.unicode then !mode.caseless else !(byte && 0x80 ≤ c.toNat)
  | shorthand negated => !mode.unicode && !negated
  | boundary => !mode.unicode
  | anchor => true

/-- Whether an atom can be an item of a class. -/
def Atom.isItem (mode : Mode) : Atom → Bool
  | literal c _ => if mode.unicode then !mode.caseless else c.toNat < 0x80
  | shorthand negated => !mode.unicode && !negated
  | _ => false

/-- A number of some hexadecimal digits, and what follows. -/
def hexNumber (mode : Mode) (value : Nat) : Nat → List Char → Option (Nat × List Char)
  | 0, cs => some (value, cs)
  | count + 1, cs =>
    match mode.skip cs with
    | [] => none
    | c :: rest => do hexNumber mode (16 * value + (← Text.digit? 16 c)) count rest

/-- A character that is written by its number with some hexadecimal digits. -/
def numbered (mode : Mode) (byte : Bool) (count : Nat) (cs : List Char) :
    Option (Atom × List Char) := do
  let (n, rest) ← hexNumber mode 0 count cs
  (Text.charOf? n).map (fun c => (.literal c byte, rest))

/-- A character that stands for itself after a backslash: an ASCII one that is no letter, no digit
and no angle bracket. -/
def isEscapable (c : Char) : Bool :=
  c.toNat < 0x80 && !c.isAlphanum && c != '<' && c != '>'

/-- What a backslash and the text after it stand for, and what follows. -/
def escape (mode : Mode) : List Char → Option (Atom × List Char)
  | [] => none
  | c :: rest =>
    if c = 'x' then numbered mode true 2 rest
    else if c = 'u' then numbered mode false 4 rest
    else if c = 'U' then numbered mode false 8 rest
    else if c ∈ ['d', 's', 'w'] then some (.shorthand false, rest)
    else if c ∈ ['D', 'S', 'W'] then some (.shorthand true, rest)
    else if c ∈ ['b', 'B', '<', '>'] then some (.boundary, rest)
    else if c ∈ ['A', 'z'] then some (.anchor, rest)
    else if isEscapable c ∨ c ∈ ['a', 'f', 't', 'n', 'r', 'v'] then
      some (.literal c false, rest)
    else none

/-- The names of classes of ASCII characters. -/
def asciiClasses : List String :=
  ["alnum", "alpha", "ascii", "blank", "cntrl", "digit", "graph", "lower", "print", "punct",
    "space", "upper", "word", "xdigit"]

/-- A named class: whether it holds the characters outside of the name, and what follows it.  The
name stands between colons and brackets, of which the first one has been read. -/
def asciiClass? : List Char → Option (Bool × List Char)
  | ':' :: cs =>
    let negated := cs.head? = some '^'
    let named := if negated then cs.drop 1 else cs
    match named.dropWhile (· != ':') with
    | ':' :: ']' :: rest =>
      if String.ofList (named.takeWhile (· != ':')) ∈ asciiClasses then some (negated, rest)
      else none
    | _ => none
  | _ => none

/-- Whether classes may have items. -/
def Mode.allowsItems (mode : Mode) : Bool :=
  !(mode.unicode && mode.caseless)

/-- Whether a class may hold the characters outside of what it names. -/
def Mode.allowsOutside (mode : Mode) : Bool :=
  mode.unicode

/-- The height of parts that stand beside each other; a single part has its own. -/
def heightOf : List Nat → Nat
  | [] => 0
  | [height] => height
  | heights => heights.foldl max 0 + 1

/-- A class that is being read. -/
structure OpenClass where
  /-- The height of what stands before the last set operation, if there is one. -/
  before : Option Nat
  items : List Nat
deriving DecidableEq, Repr

namespace OpenClass

/-- The class with one more item. -/
def push (height : Nat) (c : OpenClass) : OpenClass :=
  { c with items := height :: c.items }

/-- The height of what the class holds. -/
def height (c : OpenClass) : Nat :=
  match c.before with
  | none => heightOf c.items
  | some before => max before (heightOf c.items) + 1

/-- The class after a set operation. -/
def operate (c : OpenClass) : OpenClass :=
  ⟨some c.height, []⟩

end OpenClass

/-- Hyphens at the start of a class as its items, and what follows them. -/
def hyphens (mode : Mode) (inComment : Bool) (items : List Nat) :
    List Char → List Nat × List Char
  | [] => (items, [])
  | c :: rest =>
    if inComment then hyphens mode (c != '\n') items rest
    else if c = '-' then hyphens mode false (0 :: items) rest
    else if mode.verbose ∧ Text.isBlank c then hyphens mode false items rest
    else if mode.verbose ∧ c = '#' then hyphens mode true items rest
    else (items, c :: rest)

/-- The start of a class after its bracket: a circumflex, and hyphens or a closing bracket that
stand for themselves.  Gives the class and what follows. -/
def classStart (mode : Mode) (cs : List Char) : Option (OpenClass × List Char) := do
  let rest ← match mode.skip cs with
    | '^' :: rest => if mode.allowsOutside then some (mode.skip rest) else none
    | cs => some cs
  let (items, rest) := match rest with
    | ']' :: rest => ([0], rest)
    | rest => hyphens mode false [] rest
  if items.isEmpty || mode.allowsItems then some (⟨none, items⟩, rest) else none

/-- An item of a class, and what follows. -/
def classItem (mode : Mode) : List Char → Option (Atom × List Char)
  | [] => none
  | '\\' :: rest => escape mode rest
  | c :: rest => some (.literal c false, rest)

/-- An item or a range of a class, and what follows. -/
def classRange (mode : Mode) (cs : List Char) : Option (List Char) := do
  let (a, rest) ← classItem mode cs
  let rest := mode.skip rest
  if !a.isItem mode then none
  else match rest with
    | '-' :: after =>
      let ahead := mode.peek after
      if ahead = some ']' ∨ ahead = some '-' then some rest
      else do
        let (b, rest) ← classItem mode (mode.skip after)
        match a, b with
        | .literal first _, .literal last _ =>
          if b.isItem mode ∧ first ≤ last then some rest else none
        | _, _ => none
    | _ => some rest

/-- The height of a class that is being read, with the classes around it, and what follows. -/
def class? (mode : Mode) :
    Nat → OpenClass → List OpenClass → List Char → Option (Nat × List Char)
  | 0, _, _, _ => none
  | fuel + 1, c, outer, cs =>
    match mode.skip cs with
    | [] => none
    | '[' :: rest =>
      match asciiClass? rest with
      | some (negated, rest) =>
        if mode.allowsItems && (!negated || mode.allowsOutside) then
          class? mode fuel (c.push 0) outer rest
        else none
      | none => do
        let (inner, rest) ← classStart mode rest
        class? mode fuel inner (c :: outer) rest
    | ']' :: rest =>
      match outer with
      | [] => some (c.height + 1, rest)
      | parent :: outer => class? mode fuel (parent.push (c.height + 1)) outer rest
    | '&' :: '&' :: rest => class? mode fuel c.operate outer rest
    | '-' :: '-' :: rest => class? mode fuel c.operate outer rest
    | '~' :: '~' :: rest => class? mode fuel c.operate outer rest
    | cs => do class? mode fuel (c.push 0) outer (← classRange mode cs)

/-- The letters that a group may set. -/
def flagLetters : List Char := ['i', 'm', 's', 'U', 'u', 'R', 'x']

/-- A mode in which a letter is set or taken away. -/
def Mode.withFlag (mode : Mode) (c : Char) (on : Bool) : Mode :=
  if c = 'i' then { mode with caseless := on }
  else if c = 'u' then { mode with unicode := on }
  else if c = 'x' then { mode with verbose := on }
  else mode

/-- The mode that the letters at the start of a group set, and what follows them: a closing
parenthesis or a colon.  `seen` holds the letters before, the last one first. -/
def flags (mode : Mode) (seen : List Char) : List Char → Option (Mode × List Char)
  | [] => none
  | c :: rest =>
    if c = ':' ∨ c = ')' then if seen.head? = some '-' then none else some (mode, c :: rest)
    else if c ∈ seen then none
    else if c = '-' then flags mode (c :: seen) rest
    else if c ∈ flagLetters then
      flags (mode.withFlag c (!decide ('-' ∈ seen))) (c :: seen) rest
    else none

/-- A character of the name of a group. -/
def isNameChar (c : Char) : Bool :=
  c == '_' || c == '.' || c == '[' || c == ']' || Text.isLetterOrNumeral c

/-- A name of a group. -/
def isName : List Char → Bool
  | [] => false
  | c :: rest => (c == '_' || Text.isLetter c) && rest.all isNameChar

/-- A group that is being read, or the whole expression. -/
structure OpenGroup where
  mode : Mode
  branches : List Nat
  /-- The heights of the parts of the present alternative, the last one first. -/
  parts : List Nat
deriving DecidableEq, Repr

namespace OpenGroup

/-- A group at its start. -/
def start (mode : Mode) : OpenGroup := ⟨mode, [], []⟩

/-- The group with one more part. -/
def push (height : Nat) (g : OpenGroup) : OpenGroup :=
  { g with parts := height :: g.parts }

/-- The group in its next alternative. -/
def branch (g : OpenGroup) : OpenGroup :=
  { g with branches := heightOf g.parts :: g.branches, parts := [] }

/-- The height of what the group holds. -/
def height (g : OpenGroup) : Nat :=
  heightOf g.branch.branches

end OpenGroup

/-- How the reading of an expression stands. -/
structure State where
  group : OpenGroup
  outer : List OpenGroup
  names : List (List Char)
  /-- The last part can be repeated. -/
  ready : Bool
deriving DecidableEq, Repr

namespace State

/-- The state at the start of an expression. -/
def start : State := ⟨.start Mode.start, [], [], false⟩

/-- How the expression is read. -/
def mode (s : State) : Mode :=
  s.group.mode

/-- The state after a part that can be repeated. -/
def push (height : Nat) (s : State) : State :=
  { s with group := s.group.push height, ready := true }

/-- The state inside a new group. -/
def opened (mode : Mode) (s : State) : State :=
  { s with group := .start mode, outer := s.group :: s.outer, ready := false }

/-- The state after the end of the innermost group. -/
def closed? (s : State) : Option State :=
  match s.outer with
  | parent :: outer =>
    some { s with group := parent.push (s.group.height + 1), outer := outer, ready := true }
  | [] => none

/-- The state after letters that are set in the innermost group. -/
def withMode (mode : Mode) (s : State) : State :=
  { s with group := { s.group.push 0 with mode := mode }, ready := false }

/-- The state after the last part is repeated. -/
def repeated? (s : State) : Option State :=
  match s.ready, s.group.parts with
  | true, height :: parts =>
    some { s with group := { s.group with parts := (height + 1) :: parts } }
  | _, _ => none

end State

/-- A group with a name, after the angle bracket: the state inside it, and what follows. -/
def namedGroup (s : State) (cs : List Char) : Option (State × List Char) :=
  let name := cs.takeWhile (· != '>')
  match cs.dropWhile (· != '>') with
  | _ :: rest =>
    if isName name && s.names.all (· != name) then
      some ({ s.opened s.mode with names := name :: s.names }, rest)
    else none
  | [] => none

/-- A group after its parenthesis: the state inside it, and what follows.  It may be no group but
letters that are set in the group around it. -/
def group (s : State) (cs : List Char) : Option (State × List Char) :=
  match s.mode.skip cs with
  | '?' :: '=' :: _ | '?' :: '!' :: _ | '?' :: '<' :: '=' :: _ | '?' :: '<' :: '!' :: _ => none
  | '?' :: 'P' :: '<' :: rest | '?' :: '<' :: rest => namedGroup s rest
  | '?' :: ')' :: _ => none
  | '?' :: rest =>
    match flags s.mode [] rest with
    | some (mode, ')' :: rest) => some (s.withMode mode, rest)
    | some (mode, rest) => some (s.opened mode, rest.drop 1)
    | none => none
  | rest => some (s.opened s.mode, rest)

/-- An atom and what follows it, if it can be used. -/
def useAtom (s : State) (a : Option (Atom × List Char)) : Option (State × List Char) :=
  match a with
  | some (a, rest) => if a.isUsable s.mode then some (s.push 0, rest) else none
  | none => none

/-- One part of an expression: the state after it, and what follows. -/
def step (s : State) : List Char → Option (State × List Char)
  | [] => none
  | '(' :: rest => group s rest
  | ')' :: rest => s.closed?.map (fun s => (s, rest))
  | '|' :: rest => some ({ s with group := s.group.branch, ready := false }, rest)
  | '[' :: rest => do
    let (c, rest) ← classStart s.mode rest
    let (height, rest) ← class? s.mode (rest.length + 1) c [] rest
    pure (s.push height, rest)
  | '\\' :: rest => useAtom s (escape s.mode rest)
  | '.' :: rest => if s.mode.unicode then some (s.push 0, rest) else none
  | c :: rest =>
    if c = '\x7b' then none
    else if c = '?' ∨ c = '*' ∨ c = '+' then
      s.repeated?.map (fun s => (s, if rest.head? = some '?' then rest.drop 1 else rest))
    else if c = '^' ∨ c = '$' then useAtom s (some (.anchor, rest))
    else useAtom s (some (.literal c false, rest))

/-- The greatest height that an expression may have. -/
def heightLimit : Nat := 250

/-- Whether the rest of an expression is valid; every step takes a character. -/
def isValidFrom : Nat → State → List Char → Bool
  | 0, _, _ => false
  | fuel + 1, s, cs =>
    match s.mode.skip cs with
    | [] => s.outer.isEmpty && s.group.height ≤ heightLimit
    | cs =>
      match step s cs with
      | some (s, rest) => isValidFrom fuel s rest
      | none => false

/-- Whether a text is a regular expression that can be used. -/
def isValid (cs : List Char) : Bool :=
  isValidFrom (cs.length + 1) State.start cs

end SpotForecast.Expression
