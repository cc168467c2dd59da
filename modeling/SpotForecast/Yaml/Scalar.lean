import SpotForecast.Text.Radix
import SpotForecast.Yaml.Cursor

/-!
# YAML scalars

The texts of scalars: plain ones, those between quotation marks, and the blocks below an indicator.

* Line ends inside plain and quoted scalars are folded: one is a blank, and every further one a line
  feed.  `Gap` holds what stands between two words until it is known that a word follows.
* A block is literal or folded, and says what becomes of the line ends after it.
-/

namespace SpotForecast.Yaml

/-- What stands between two words of a scalar. -/
structure Gap where
  /-- The blanks in the line of the first word, the last one first. -/
  blanks : List Char
  broken : Bool
  /-- The number of line ends after the first one. -/
  more : Nat
deriving DecidableEq, Repr

namespace Gap

/-- Nothing between two words. -/
def empty : Gap := ⟨[], false, 0⟩

/-- The line ends of a gap after folding. -/
def folded (g : Gap) : List Char :=
  if g.broken ∧ g.more = 0 then [' '] else List.replicate g.more '\n'

end Gap

/-- Whether a plain scalar goes on with a character before another one. -/
def isPlain (inFlow : Bool) (c next : Char) : Bool :=
  if isWordEnd c then false
  else if c = ':' then !(isWordEnd next || (inFlow && isFlowMark next))
  else !(inFlow && isFlowMark c)

/-- The characters of a plain scalar up to the end of a word. -/
def plainRun (inFlow : Bool) : List Char → List Char
  | [] => []
  | c :: rest =>
    if isPlain inFlow c (rest.head?.getD endMark) then c :: plainRun inFlow rest else []

/-- The gap after a word of a plain scalar that has some least indentation, and the place after it.
Every step takes a character. -/
def plainGap (indent : Int) : Nat → Gap → Cursor → Option (Gap × Cursor)
  | 0, _, _ => none
  | fuel + 1, g, c =>
    if isSpace c.next then
      if !c.fresh then
        plainGap indent fuel { g with blanks := c.next :: g.blanks } (c.afterSpaces 1)
      else if c.next = '\t' ∧ c.column < indent then do
        let c ← c.afterComment?
        if isBreakOrEnd c.next then plainGap indent fuel g c else none
      else plainGap indent fuel g (c.afterSpaces 1)
    else if isBreak c.next then
      if c.fresh then plainGap indent fuel { g with more := g.more + 1 } c.afterBreak
      else plainGap indent fuel { g with blanks := [], broken := true } c.afterBreak
    else some (g, c)

/-- The words of a plain scalar after those that were read, the last character first, and the place
after it.  Every step takes a character or ends. -/
def plainWords (inFlow : Bool) (indent : Int) :
    Nat → Gap → List Char → Cursor → Option (List Char × Cursor)
  | 0, _, _, _ => none
  | fuel + 1, g, done, c =>
    if c.atDocument ∨ c.next = '#' then some (done, c)
    else if inFlow ∧ c.next = '-' ∧ isFlowMark (c.ahead 1) then none
    else
      let run := plainRun inFlow c.rest
      let (g, done) :=
        if run.isEmpty then (g, done)
        else if c.fresh then ({ g with broken := false, more := 0 },
          run.reverse ++ (g.folded.reverse ++ done))
        else ({ g with blanks := [] }, run.reverse ++ (g.blanks ++ done))
      let c := c.after run.length
      if isSpace c.next || isBreak c.next then do
        let (g, c) ← plainGap indent (c.rest.length + 1) g c
        if !inFlow ∧ c.column < indent then some (done, c)
        else plainWords inFlow indent fuel g done c
      else some (done, c)

/-- A plain scalar inside some indentation, and the place after it. -/
def plainScalar (inFlow : Bool) (indent : Int) (c : Cursor) : Option (String × Cursor) := do
  if inFlow ∧ c.column < indent + 1 then none
  else
    let (text, c) ← plainWords inFlow (indent + 1) (c.rest.length + 1) Gap.empty [] c
    if text.isEmpty then none else some (String.ofList text.reverse, c)

/-- The character that a letter after a backslash stands for. -/
def escape? (c : Char) : Option Char :=
  if c = '0' then some '\x00'
  else if c = 'a' then some '\x07'
  else if c = 'b' then some '\x08'
  else if c = 't' ∨ c = '\t' then some '\t'
  else if c = 'n' then some '\n'
  else if c = 'v' then some '\x0b'
  else if c = 'f' then some '\x0c'
  else if c = 'r' then some '\x0d'
  else if c = 'e' then some '\x1b'
  else if c = ' ' ∨ c = '"' ∨ c = '/' ∨ c = '\\' then some c
  else if c = 'N' then some '\u0085'
  else if c = '_' then some '\u00a0'
  else if c = 'L' then some '\u2028'
  else if c = 'P' then some '\u2029'
  else none

/-- The character that stands after a backslash, and the place after it. -/
def escaped? (c : Cursor) : Option (Char × Cursor) :=
  let numbered (count : Nat) : Option (Char × Cursor) :=
    (Text.numbered? count (c.rest.drop 1)).map (fun (x, _) => (x, c.after (count + 1)))
  if c.next = 'x' then numbered 2
  else if c.next = 'u' then numbered 4
  else if c.next = 'U' then numbered 8
  else (escape? c.next).map (fun x => (x, c.after 1))

/-- The characters of a quoted scalar up to a blank, a line end or its last quotation mark, after
those that were read, the last one first; the place after them; and whether a line end without
meaning stands there.  Every step takes a character. -/
def quotedRun (mark : Char) : Nat → List Char → Cursor → Option (List Char × Cursor × Bool)
  | 0, _, _ => none
  | fuel + 1, done, c =>
    if isWordEnd c.next then some (done, c, false)
    else if mark = '\'' ∧ c.next = '\'' ∧ c.ahead 1 = '\'' then
      quotedRun mark fuel ('\'' :: done) (c.after 2)
    else if c.next = mark then some (done, c, false)
    else if mark = '"' ∧ c.next = '\\' then
      if isBreak (c.ahead 1) then some (done, (c.after 1).afterBreak, true)
      else do
        let (x, c) ← escaped? (c.after 1)
        quotedRun mark fuel (x :: done) c
    else quotedRun mark fuel (c.next :: done) (c.after 1)

/-- The gap after a word of a quoted scalar inside some indentation, and the place after it;
`inLine` says that no line has ended yet.  Every step takes a character. -/
def quotedGap (indent : Int) : Nat → Bool → Gap → Cursor → Option (Bool × Gap × Cursor)
  | 0, _, _, _ => none
  | fuel + 1, inLine, g, c =>
    if isSpace c.next then
      if inLine then
        quotedGap indent fuel inLine { g with blanks := c.next :: g.blanks } (c.afterSpaces 1)
      else if c.next = '\t' ∧ c.column < indent then none
      else quotedGap indent fuel inLine g (c.afterSpaces 1)
    else if isBreak c.next then
      if inLine then
        quotedGap indent fuel false { g with blanks := [], broken := true } c.afterBreak
      else quotedGap indent fuel false { g with more := g.more + 1 } c.afterBreak
    else some (inLine, g, c)

/-- The words of a quoted scalar after those that were read, the last character first, and its last
quotation mark.  Every step takes a character. -/
def quotedWords (mark : Char) (indent : Int) :
    Nat → List Char → Cursor → Option (List Char × Cursor)
  | 0, _, _ => none
  | fuel + 1, done, c => do
    if c.atDocument ∨ c.next = endMark ∨ c.column < indent then none
    else
      let (done, c, joined) ← quotedRun mark (c.rest.length + 1) done c
      if c.next = mark then some (done, c)
      else
        let (inLine, g, c) ← quotedGap indent (c.rest.length + 1) (!joined) Gap.empty c
        quotedWords mark indent fuel ((if inLine then g.blanks else g.folded.reverse) ++ done) c

/-- Whether a quoted scalar that started in a line may end at a place. -/
def mayEndQuoted (inFlow : Bool) (line : Nat) (c : Cursor) : Bool :=
  isBreakOrEnd c.next || (c.next == ':' && (inFlow || line == c.line)) ||
    (inFlow && (c.next == ',' || c.next == ']' || c.next == '\x7d'))

/-- A quoted scalar inside some indentation, and the place after it and the blanks behind it. -/
def quotedScalar (inFlow : Bool) (indent : Int) (c : Cursor) : Option (String × Cursor) := do
  let (text, last) ← quotedWords c.next indent (c.rest.length + 1) [] (c.after 1)
  let after ← (last.after 1).afterComment?
  if mayEndQuoted inFlow c.line after then some (String.ofList text.reverse, after) else none

/-- What becomes of the line ends at the end of a block. -/
inductive Chomping where
  | strip
  | clip
  | keep
deriving DecidableEq, Repr

/-- What a sign in the header of a block says about the line ends at its end. -/
def chomping? (c : Char) : Option Chomping :=
  if c = '+' then some .keep else if c = '-' then some .strip else none

/-- The indentation that a digit in the header of a block adds; it is not zero. -/
def increment? (c : Char) : Option Nat :=
  (Text.digit? 10 c).bind (fun d => if d = 0 then none else some d)

/-- The header of a block after its indicator: what becomes of the line ends, the indentation that
is added, with zero for none, and the place after it. -/
def blockHeader (c : Cursor) : Option (Chomping × Nat × Cursor) :=
  match chomping? c.next with
  | some chomping =>
    let c := c.after 1
    if (Text.digit? 10 c.next).isSome then
      (increment? c.next).map (fun n => (chomping, n, c.after 1))
    else some (chomping, 0, c)
  | none =>
    if (Text.digit? 10 c.next).isSome then do
      let n ← increment? c.next
      let c := c.after 1
      match chomping? c.next with
      | some chomping => pure (chomping, n, c.after 1)
      | none => pure (.clip, n, c)
    else some (.clip, 0, c)

/-- The place after empty lines and the indentation of a block, and the number of those lines.
Every step takes a line. -/
def blockIndent (indent : Nat) : Nat → Nat → Cursor → Nat × Cursor
  | 0, lines, c => (lines, c)
  | fuel + 1, lines, c =>
    let spaces := ((c.rest.take (indent - c.column)).takeWhile (· == ' ')).length
    let c := c.afterSpaces spaces
    if isBreak c.next then blockIndent indent fuel (lines + 1) c.afterBreak else (lines, c)

/-- The place after the empty lines and the blanks at the start of a block, the number of those
lines, and the greatest number of blanks in one of them.  Every step takes a line. -/
def firstIndent : Nat → Nat → Nat → Cursor → Nat × Nat × Cursor
  | 0, most, lines, c => (most, lines, c)
  | fuel + 1, most, lines, c =>
    let c := c.afterSpaces (c.rest.takeWhile (· == ' ')).length
    let most := max most c.column
    if isBreak c.next then firstIndent fuel most (lines + 1) c.afterBreak else (most, lines, c)

/-- The lines of a block as they are being read. -/
structure BlockText where
  /-- The text, the last character first. -/
  done : List Char
  broken : Bool
  /-- The number of empty lines after it. -/
  empty : Nat
  indented : Bool
deriving DecidableEq, Repr

/-- A block with the line ends before its next line, which starts with a blank or not. -/
def BlockText.join (literal indented : Bool) (b : BlockText) : BlockText :=
  let ends :=
    if !literal && b.broken && !b.indented && !indented then
      if b.empty = 0 then [' '] else List.replicate b.empty '\n'
    else List.replicate (b.empty + if b.broken then 1 else 0) '\n'
  ⟨ends ++ b.done, false, 0, indented⟩

/-- The lines of a block with some indentation, and the place after them.  Every step takes a line.
-/
def blockLines (literal : Bool) (indent : Nat) : Nat → BlockText → Cursor → BlockText × Cursor
  | 0, b, c => (b, c)
  | fuel + 1, b, c =>
    if c.column ≠ indent ∨ c.next = endMark ∨ (indent = 0 ∧ c.hasMark '.') then (b, c)
    else
      let b := b.join literal (isSpace c.next)
      let (run, c) := c.span (fun x => !isBreak x)
      let b := { b with done := run.reverse ++ b.done }
      if c.next = endMark then (b, c)
      else
        let (empty, c) := blockIndent indent (c.rest.length + 1) 0 c.afterBreak
        blockLines literal indent fuel { b with broken := true, empty := empty } c

/-- The line ends at the end of a block with some indentation. -/
def BlockText.tail (chomping : Chomping) (indent : Nat) (b : BlockText) (c : Cursor) : Nat :=
  let last := (if b.broken then 1 else 0) +
    (if c.next = endMark ∧ max indent 1 ≤ c.column then 1 else 0)
  match chomping with
  | .strip => 0
  | .clip => last
  | .keep => last + b.empty

/-- The text of a block of which only empty lines are left at the end of the text. -/
def emptyBlock (chomping : Chomping) (sameLine broken : Bool) (lines : Nat) : String :=
  let first := if broken then "\n" else ""
  match chomping with
  | .strip => ""
  | .clip => if sameLine then "" else first
  | .keep =>
    if sameLine then "" else if lines = 0 then first else String.ofList (List.replicate lines '\n')

/-- A block inside some indentation, and the place after it. -/
def blockScalar (indent : Int) (c : Cursor) : Option (String × Cursor) := do
  let start := c
  let literal := c.next == '|'
  let (chomping, increment, c) ← blockHeader (c.after 1)
  let c ← c.afterComment?
  if !isBreakOrEnd c.next then none
  else
    let broken := isBreak c.next
    let c := c.afterBreak
    if c.next = '\t' then none
    else
      let (depth, lines, c) :=
        if increment = 0 then
          let (most, lines, c) := firstIndent (c.rest.length + 1) 0 0 c
          let least := max most (indent + 1).toNat
          (if 0 < indent then max least 1 else least, lines, c)
        else
          let depth := indent.toNat + increment
          let (lines, c) := blockIndent depth (c.rest.length + 1) 0 c
          (depth, lines, c)
      if c.next = endMark then
        some (emptyBlock chomping (c.line == start.line) broken lines, c)
      else if c.column < depth ∧ indent < c.column then none
      else
        let (b, c) := blockLines literal depth (c.rest.length + 1) ⟨[], false, lines, false⟩ c
        let text := List.replicate (b.tail chomping depth c) '\n' ++ b.done
        some (String.ofList text.reverse, c)

end SpotForecast.Yaml
