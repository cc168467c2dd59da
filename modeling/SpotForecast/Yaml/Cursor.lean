/-!
# Places in a YAML text

A `Cursor` is a place in a text: what follows it, and where in its line it stands.  A text ends
before its first zero character, which also stands for what follows the end.
-/

namespace SpotForecast.Yaml

/-- A place in a text: what follows it, and how many characters and lines are before it. -/
structure Cursor where
  rest : List Char
  index : Nat
  line : Nat
  column : Nat
  /-- There are only blanks before it in its line. -/
  fresh : Bool
deriving DecidableEq, Repr

/-- The character that stands for the end of a text. -/
def endMark : Char := '\x00'

/-- The end of a line. -/
def isBreak (c : Char) : Bool :=
  c == '\n' || c == '\r'

/-- A blank inside a line. -/
def isSpace (c : Char) : Bool :=
  c == ' ' || c == '\t'

/-- The end of a line or of the text. -/
def isBreakOrEnd (c : Char) : Bool :=
  isBreak c || c == endMark

/-- The end of a word. -/
def isWordEnd (c : Char) : Bool :=
  isSpace c || isBreakOrEnd c

/-- A mark of flow collections: a comma, a bracket or a brace. -/
def isFlowMark (c : Char) : Bool :=
  c == ',' || c == '[' || c == ']' || c == '\x7b' || c == '\x7d'

namespace Cursor

/-- The start of a text. -/
def start (text : String) : Cursor :=
  ⟨text.toList.takeWhile (· != endMark), 0, 0, 0, true⟩

/-- The character some places ahead. -/
def ahead (n : Nat) (c : Cursor) : Char :=
  (c.rest[n]?).getD endMark

/-- The next character. -/
def next (c : Cursor) : Char :=
  c.ahead 0

/-- The place after some blanks. -/
def afterSpaces (n : Nat) (c : Cursor) : Cursor :=
  { c with rest := c.rest.drop n, index := c.index + n, column := c.column + n }

/-- The place after some characters that are no line ends. -/
def after (n : Nat) (c : Cursor) : Cursor :=
  { c.afterSpaces n with fresh := c.fresh && n == 0 }

/-- The place after a line end, if there is one. -/
def afterBreak (c : Cursor) : Cursor :=
  match c.rest with
  | '\r' :: '\n' :: rest => ⟨rest, c.index + 2, c.line + 1, 0, true⟩
  | x :: rest => if isBreak x then ⟨rest, c.index + 1, c.line + 1, 0, true⟩ else c
  | [] => c

/-- The end of the line. -/
def lineEnd (c : Cursor) : Cursor :=
  c.after (c.rest.takeWhile (fun x => !isBreak x)).length

/-- The characters of a class at a place, and the place after them. -/
def span (p : Char → Bool) (c : Cursor) : List Char × Cursor :=
  let run := c.rest.takeWhile p
  (run, c.after run.length)

/-- The place after the blanks and a comment; a comment needs a blank before it. -/
def afterComment? (c : Cursor) : Option Cursor :=
  let blanks := c.rest.takeWhile isSpace
  let c := c.afterSpaces blanks.length
  if c.next = '#' then if blanks.isEmpty then none else some c.lineEnd else some c

/-- Whether a mark of three characters stands at a place that starts a line. -/
def hasMark (mark : Char) (c : Cursor) : Bool :=
  c.column == 0 && c.ahead 0 == mark && c.ahead 1 == mark && c.ahead 2 == mark &&
    isWordEnd (c.ahead 3)

/-- Whether a document starts or ends at a place. -/
def atDocument (c : Cursor) : Bool :=
  c.hasMark '-' || c.hasMark '.'

end Cursor

end SpotForecast.Yaml
