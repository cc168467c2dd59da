import SpotForecast.Yaml.Scalar
import SpotForecast.Yaml.Tag

/-!
# The tokens of a YAML text

`Yaml.tokens` is the sequence of tokens of a text: scalars, properties of nodes, and where
documents, collections and their entries start and end, with the starts and ends that only the
indentation shows.

A key without an indicator is known as one only when its colon comes.  A `Candidate` is a token that
may turn out to start such a key; then tokens are put before it.  A candidate is given up where its
line ends, and where it had to be a key, the text is no YAML.
-/

namespace SpotForecast.Yaml

/-- A token. -/
inductive Token where
  | textEnd
  | directive (d : Directive)
  | documentStart
  | documentEnd
  | blockSequence
  | blockMapping
  | blockEnd
  | openSequence
  | closeSequence
  | openMapping
  | closeMapping
  | entry
  | comma
  | key
  | value
  | reference (name : String)
  | anchor (name : String)
  | tag (t : Tag)
  /-- A scalar; a plain one may be no text. -/
  | scalar (plain : Bool) (text : String)
deriving DecidableEq, Repr

/-- A token that may turn out to start a key. -/
structure Candidate where
  /-- It has to be a key. -/
  required : Bool
  number : Nat
  start : Cursor
deriving DecidableEq, Repr

/-- An indentation around the present one. -/
structure Level where
  indent : Int
  /-- A collection ends with the level inside it. -/
  isBlock : Bool
deriving DecidableEq, Repr

/-- How the reading of tokens stands. -/
structure Scanner where
  here : Cursor
  tokens : List Token
  count : Nat
  /-- The column of the last token, if it is a property of a node. -/
  property : Option Nat
  /-- The candidates for keys of the flow collections that are open and of the block around them,
  the innermost one first. -/
  keys : List (Option Candidate)
  keyAllowed : Bool
  indent : Int
  levels : List Level
  flow : Nat
  /-- The index at which a value may follow its colon at once. -/
  adjacentAt : Nat
  braced : Bool
  /-- For every bracket that is open, whether a pair in it is a mapping by itself; the innermost one
  first. -/
  pairs : List Bool
  ended : Bool

namespace Scanner

/-- The start of a text. -/
def start (text : String) : Scanner where
  here := Cursor.start text
  tokens := []
  count := 0
  property := none
  keys := [none]
  keyAllowed := true
  indent := -1
  levels := []
  flow := 0
  adjacentAt := 0
  braced := false
  pairs := []
  ended := false

/-- Whether the place is inside a flow collection. -/
def inFlow (s : Scanner) : Bool :=
  0 < s.flow

/-- The reading with one more token. -/
def push (t : Token) (s : Scanner) : Scanner :=
  { s with tokens := t :: s.tokens, count := s.count + 1, property := none }

/-- The reading with a token put before another one. -/
def insert (number : Nat) (t : Token) (s : Scanner) : Scanner :=
  let later := s.count - number
  { s with tokens := s.tokens.take later ++ t :: s.tokens.drop later, count := s.count + 1 }

/-- The reading at a place further on. -/
def moveTo (c : Cursor) (s : Scanner) : Scanner :=
  { s with here := c }

/-- The reading where a key may start. -/
def allowKey (s : Scanner) : Scanner :=
  { s with keyAllowed := true }

/-- The reading where no key may start. -/
def forbidKey (s : Scanner) : Scanner :=
  { s with keyAllowed := false }

/-- Whether the indentation is that of a block. -/
def inBlockLevel (s : Scanner) : Bool :=
  s.levels.head?.any Level.isBlock

/-- Makes the next token a candidate, if a key may start with it. -/
def saveKey (s : Scanner) : Scanner :=
  if s.keyAllowed then
    let required := !s.inFlow && s.indent == s.here.column && s.inBlockLevel
    { s with keys := some ⟨required, s.count, s.here⟩ :: s.keys.tail }
  else s

/-- Gives the last candidate up. -/
def removeKey (s : Scanner) : Option Scanner :=
  match s.keys with
  | some k :: outer => if k.required then none else some { s with keys := none :: outer }
  | _ => some s

/-- The number of characters that a key may have. -/
def keyLength : Nat := 1024

/-- A candidate, if it can still be a key at a place; nothing if it had to be one. -/
def keepKey (c : Cursor) (k : Option Candidate) : Option (Option Candidate) :=
  match k with
  | some k =>
    if k.start.line < c.line ∨ k.start.index + keyLength < c.index then
      if k.required then none else some none
    else some (some k)
  | none => some none

/-- Gives the candidates up that cannot be keys any more. -/
def staleKeys (s : Scanner) : Option Scanner :=
  if s.inFlow then some s
  else (s.keys.mapM (keepKey s.here)).map (fun keys => { s with keys := keys })

/-- Gives all candidates up. -/
def dropKeys (s : Scanner) : Option Scanner :=
  if s.keys.any (fun k => k.any Candidate.required) then none
  else some { s with keys := s.keys.map (fun _ => none) }

/-- Leaves the levels that are indented by more than a column. -/
def leaveLevels (column : Int) (s : Scanner) : List Level → Scanner
  | [] => { s with levels := [] }
  | level :: outer =>
    if column < s.indent then
      let left := { s with indent := level.indent }
      leaveLevels column (if level.isBlock then left.push .blockEnd else left) outer
    else { s with levels := level :: outer }

/-- Ends the blocks that are indented by more than a column. -/
def unroll (column : Int) (s : Scanner) : Scanner :=
  if s.inFlow then s else s.leaveLevels column s.levels

/-- Leaves a level that belongs to no block. -/
def dropLevel (s : Scanner) : Scanner :=
  match s.levels with
  | level :: outer =>
    if level.isBlock then s else { s with indent := level.indent, levels := outer }
  | [] => s

/-- Starts a block at a column, unless its indentation is there already; its token stands before the
one with a number, or at the end. -/
def roll (column : Nat) (number : Option Nat) (t : Token) (s : Scanner) : Scanner :=
  if s.inFlow then s
  else
    let s := if s.indent ≤ column then s.dropLevel else s
    if s.indent < column then
      let s := { s with levels := ⟨s.indent, true⟩ :: s.levels, indent := column }
      match number with
      | some n => s.insert n t
      | none => s.push t
    else s

/-- Indents by one more column without a block. -/
def rollOne (s : Scanner) : Scanner :=
  if !s.inFlow && s.inBlockLevel then
    { s with levels := ⟨s.indent, false⟩ :: s.levels, indent := s.indent + 1 }
  else s

/-- Leaves the levels that belong to no block. -/
def leavePlainLevels (s : Scanner) : List Level → Scanner
  | [] => { s with levels := [] }
  | level :: outer =>
    if level.isBlock then { s with levels := level :: outer }
    else leavePlainLevels { s with indent := level.indent } outer

/-- The reading in the indentation of the innermost block. -/
def unrollPlain (s : Scanner) : Scanner :=
  s.leavePlainLevels s.levels

/-- The reading at the next token.  A tab may not indent a block unless the rest of its line is
empty.  Every step takes a character. -/
def skip : Nat → Scanner → Option Scanner
  | 0, _ => none
  | fuel + 1, s =>
    let c := s.here
    if c.next = '\t' ∧ !s.levels.isEmpty ∧ c.fresh ∧ c.column < s.indent then do
      let c ← c.afterComment?
      if isBreakOrEnd c.next then skip fuel (s.moveTo c) else none
    else if isSpace c.next then skip fuel (s.moveTo (c.afterSpaces 1))
    else if isBreak c.next then
      let s := s.moveTo c.afterBreak
      skip fuel (if s.inFlow then s else s.allowKey)
    else if c.next = '#' then skip fuel (s.moveTo c.lineEnd)
    else some s

/-- The reading at the next token. -/
def atToken (s : Scanner) : Option Scanner :=
  skip (2 * s.here.rest.length + 2) s

/-- The reading after the blanks and a comment. -/
def afterComment (s : Scanner) : Option Scanner :=
  s.here.afterComment?.map s.moveTo

/-- The end of the text. -/
def textEnd (s : Scanner) : Option Scanner := do
  let s ← s.dropKeys
  pure { (s.unroll (-1)).forbidKey.push .textEnd with ended := true }

/-- The reading between documents. -/
def betweenDocuments (s : Scanner) : Option Scanner :=
  (s.unroll (-1)).removeKey.map forbidKey

/-- A directive. -/
def directive (s : Scanner) : Option Scanner := do
  let s ← s.betweenDocuments
  let (d, c) ← directive? s.here
  pure ((s.moveTo c).push (.directive d))

/-- The mark before or after a document. -/
def documentMark (t : Token) (s : Scanner) : Option Scanner := do
  let s ← s.betweenDocuments
  pure ((s.moveTo (s.here.after 3)).push t)

/-- The mark after a document, with nothing behind it in its line. -/
def documentEnd (s : Scanner) : Option Scanner := do
  let s ← (← s.documentMark .documentEnd).afterComment
  if isBreakOrEnd s.here.next then some s else none

/-- The number of flow collections that may be inside each other. -/
def flowLimit : Nat := 255

/-- The start of a flow collection. -/
def openFlow (t : Token) (s : Scanner) : Option Scanner := do
  let s := s.saveKey.rollOne
  if flowLimit ≤ s.flow then none
  else
    let s := { s with keys := none :: s.keys, flow := s.flow + 1 }.allowKey
    let s := s.moveTo (s.here.after 1)
    let s :=
      if t = .openMapping then { s with braced := true } else { s with pairs := false :: s.pairs }
    (← s.afterComment).push t

/-- The end of a pair that is a mapping by itself, if the place is in one. -/
def closePair (s : Scanner) : Scanner :=
  match s.pairs with
  | true :: outer => { s with braced := false, pairs := false :: outer }.push .closeMapping
  | _ => s

/-- The end of a flow collection. -/
def closeFlow (t : Token) (s : Scanner) : Option Scanner := do
  let s ← s.removeKey
  let s := if s.inFlow then { s with flow := s.flow - 1, keys := s.keys.tail } else s
  let s := s.forbidKey
  let s :=
    if t = .closeSequence then
      let s := s.closePair
      { s with pairs := s.pairs.tail }
    else s
  let s ← (s.moveTo (s.here.after 1)).afterComment
  let s := if s.inFlow then { s with adjacentAt := s.here.index } else s
  pure (s.push t)

/-- A comma. -/
def comma (s : Scanner) : Option Scanner := do
  let s ← s.removeKey
  let s := s.allowKey.closePair
  pure ((← (s.moveTo (s.here.after 1)).afterComment).push .comma)

/-- An entry of a sequence by indentation. -/
def entry (s : Scanner) : Option Scanner := do
  let start := s.here
  if s.inFlow ∨ !s.keyAllowed then none
  else if s.property = some 0 ∧ start.column = 0 ∧ -1 < s.indent then none
  else
    let s := (s.moveTo (start.after 1)).roll start.column none .blockSequence
    let tabs := (s.here.rest.takeWhile isSpace).contains '\t'
    let s ← s.afterComment
    if tabs ∧ s.here.next = '-' ∧ isWordEnd (s.here.ahead 1) then none
    else
      let s := if isBreak s.here.next || isFlowMark s.here.next then s.rollOne else s
      pure ((← s.removeKey).allowKey.push .entry)

/-- The place after the blanks, comments and line ends behind a sign, at least one of them; and
whether there was a line end.  Every step takes a character. -/
def afterGap : Nat → Bool → Bool → Cursor → Option (Bool × Cursor)
  | 0, _, _, _ => none
  | fuel + 1, found, ended, c =>
    if c.next = ' ' then afterGap fuel true ended (c.afterSpaces 1)
    else if isBreak c.next then afterGap fuel true true c.afterBreak
    else if c.next = '#' then afterGap fuel found ended c.lineEnd
    else if found ∧ c.next ≠ '\t' then some (ended, c)
    else none

/-- A key with its indicator. -/
def key (s : Scanner) : Option Scanner := do
  let start := s.here
  if !s.inFlow ∧ !s.keyAllowed then none
  else
    let s :=
      if s.inFlow then { s with braced := true } else s.roll start.column none .blockMapping
    let s ← s.removeKey
    let s := if s.inFlow then s.forbidKey else s.allowKey
    let (ended, c) ← afterGap (2 * start.rest.length + 2) false false (start.after 1)
    let s := if ended ∧ !s.inFlow then s.allowKey else s
    pure ((s.moveTo c).push .key)

/-- The reading after a colon; a tab alone may not stand between it and a word or an entry. -/
def afterColon (s : Scanner) : Option Scanner := do
  let s := s.moveTo (s.here.after 1)
  if s.here.next ≠ '\t' then some s
  else
    let spaced := (s.here.rest.takeWhile isSpace).contains ' '
    let s ← s.afterComment
    if !spaced ∧ (s.here.next = '-' ∨ isHandleChar s.here.next) then none else some s

/-- A value whose key is a candidate; `alone` says that the pair is a mapping by itself. -/
def valueOf (k : Candidate) (line : Nat) (alone : Bool) (s : Scanner) : Option Scanner := do
  let s := s.insert k.number .key
  if alone ∧ k.start.line < line then none
  else
    let s := if alone then s.insert k.number .openMapping else s
    let s := (s.roll k.start.column (some k.number) .blockMapping).rollOne
    pure { s with keys := none :: s.keys.tail }.forbidKey

/-- A value whose key is empty or had an indicator; `alone` says that the pair is a mapping by
itself. -/
def valueAt (column : Nat) (alone : Bool) (s : Scanner) : Option Scanner := do
  let s := if alone then s.push .openMapping else s
  if s.inFlow then pure s.rollOne.forbidKey
  else if !s.keyAllowed then none
  else pure (s.roll column none .blockMapping).rollOne.allowKey

/-- A value. -/
def value (s : Scanner) : Option Scanner := do
  let start := s.here
  let alone := !s.pairs.isEmpty && !s.braced
  let s := if alone then { s with pairs := true :: s.pairs.tail } else s
  let s ← s.afterColon
  let s ← match s.keys with
    | some k :: _ => s.valueOf k start.line alone
    | _ => s.valueAt start.column alone
  pure (s.push .value)

/-- A value in a flow collection whose colon no blank follows. -/
def flowValue (s : Scanner) : Option Scanner :=
  let next := s.here.ahead 1
  if s.here.index ≠ s.adjacentAt ∧ (next = '[' ∨ next = '\x7b') then none else s.value

/-- A token at the place, which may start a key but before which no key ends. -/
def single (t : Token) (c : Cursor) (s : Scanner) : Scanner :=
  (s.saveKey.forbidKey.moveTo c).push t

/-- An anchor or a reference. -/
def anchor (isReference : Bool) (s : Scanner) : Option Scanner := do
  let (name, c) ← anchor? s.here
  if isReference then pure (s.single (.reference name) c)
  else pure { s.single (.anchor name) c with property := some s.here.column }

/-- A tag. -/
def tag (s : Scanner) : Option Scanner := do
  let (t, c) ← tag? s.inFlow s.here
  pure { s.single (.tag t) c with property := some s.here.column }

/-- A block scalar. -/
def block (s : Scanner) : Option Scanner := do
  let s := s.saveKey.allowKey.unrollPlain
  let (text, c) ← blockScalar s.indent s.here
  pure ((s.moveTo c).push (.scalar false text))

/-- A quoted scalar. -/
def quoted (s : Scanner) : Option Scanner := do
  let s := s.saveKey.forbidKey
  let (text, c) ← quotedScalar s.inFlow s.indent s.here
  let s ← (s.moveTo c).atToken
  pure ({ s with adjacentAt := s.here.index }.push (.scalar false text))

/-- A plain scalar. -/
def plain (s : Scanner) : Option Scanner := do
  let s := s.saveKey.forbidKey.unrollPlain
  let (text, c) ← plainScalar s.inFlow s.indent s.here
  let s := s.moveTo c
  pure ((if c.fresh then s.allowKey else s).push (.scalar true text))

/-- The token at a place that is neither the end of the text nor a mark of documents. -/
def token (s : Scanner) : Option Scanner :=
  let c := s.here.next
  let next := s.here.ahead 1
  if c = '[' then s.openFlow .openSequence
  else if c = '\x7b' then s.openFlow .openMapping
  else if c = ']' then s.closeFlow .closeSequence
  else if c = '\x7d' then s.closeFlow .closeMapping
  else if c = ',' then s.comma
  else if c = '-' ∧ isWordEnd next then s.entry
  else if c = '?' ∧ isWordEnd next then s.key
  else if c = ':' ∧ isWordEnd next then s.value
  else if c = ':' ∧ s.inFlow ∧ (isFlowMark next ∨ s.here.index = s.adjacentAt) then s.flowValue
  else if c = '*' then s.anchor true
  else if c = '&' then s.anchor false
  else if c = '!' then s.tag
  else if (c = '|' ∨ c = '>') ∧ !s.inFlow then s.block
  else if c = '\'' ∨ c = '"' then s.quoted
  else if c = '%' ∨ c = '@' ∨ c = '\x60' then none
  else s.plain

/-- The reading after the next token. -/
def step (s : Scanner) : Option Scanner := do
  let s ← s.atToken
  let s ← s.staleKeys
  let s := s.unroll s.here.column
  let c := s.here
  if c.next = endMark then s.textEnd
  else if c.column = 0 ∧ c.next = '%' then s.directive
  else if c.hasMark '-' then s.documentMark .documentStart
  else if c.hasMark '.' then s.documentEnd
  else if c.column < s.indent then none
  else s.token

/-- All tokens of the rest of a text; every step takes a character. -/
def run : Nat → Scanner → Option (List Token)
  | 0, _ => none
  | fuel + 1, s =>
    if s.ended then some s.tokens.reverse else s.step.bind (run fuel)

end Scanner

/-- The tokens of a text. -/
def tokens (text : String) : Option (List Token) :=
  let s := Scanner.start text
  s.run (s.here.rest.length + 2)

end SpotForecast.Yaml
