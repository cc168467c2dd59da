import SpotForecast.Decimal.Digits
import SpotForecast.Text.Radix
import SpotForecast.Yaml.Cursor

/-!
# YAML names: tags, anchors and directives

* A tag is a handle with a suffix, or a suffix alone; signs in it may be written as bytes after a
  percent sign.
* An anchor gives a node a name, by which it can be referred to.
* A directive before a document states the version of YAML or declares a handle.
-/

namespace SpotForecast.Yaml

/-- A tag as it is written. -/
structure Tag where
  /-- Its handle, with the marks around it; empty if the tag has none. -/
  handle : String
  suffix : String
deriving DecidableEq, Repr

/-- A directive. -/
inductive Directive where
  | version
  | handle (name lead : String)
deriving DecidableEq, Repr

/-- A character of a handle. -/
def isHandleChar (c : Char) : Bool :=
  c.isAlphanum || c == '_' || c == '-'

/-- A character of an address. -/
def isAddressChar (c : Char) : Bool :=
  isHandleChar c || "#;/?:@&=+$,.!~*'()[]%".toList.contains c

/-- A character of the suffix of a tag. -/
def isSuffixChar (c : Char) : Bool :=
  isAddressChar c && !isFlowMark c && c != '!'

/-- The number of bytes of a character, by its first byte. -/
def byteCount? (first : Nat) : Option Nat :=
  if first < 0x80 then some 1
  else if first < 0xC0 then none
  else if first < 0xE0 then some 2
  else if first < 0xF0 then some 3
  else if first < 0xF8 then some 4
  else none

/-- The value of some bytes that are written with percent signs, after a value, and the place after
them; all of them go on a character. -/
def moreBytes : Nat → Nat → Cursor → Option (Nat × Cursor)
  | 0, value, c => some (value, c)
  | count + 1, value, c => do
    if c.next ≠ '%' then none
    else
      let byte ← Text.number? 16 [c.ahead 1, c.ahead 2]
      if byte < 0x80 ∨ 0xC0 ≤ byte then none
      else moreBytes count (256 * value + byte) (c.after 3)

/-- A character that is written as bytes with percent signs, and the place after it.  Its number is
made of whole bytes. -/
def writtenBytes? (c : Cursor) : Option (Char × Cursor) := do
  let byte ← Text.number? 16 [c.ahead 1, c.ahead 2]
  let count ← byteCount? byte
  let (value, c) ← moreBytes (count - 1) byte (c.after 3)
  pure (← Text.charOf? value, c)

/-- The characters of a class at a place, written as they are or as bytes, and the place after them.
Every step takes a character. -/
def spanAddress (p : Char → Bool) : Nat → Cursor → Option (List Char × Cursor)
  | 0, _ => none
  | fuel + 1, c =>
    if !p c.next then some ([], c)
    else do
      let (x, c) ← if c.next = '%' then writtenBytes? c else some (c.next, c.after 1)
      let (more, c) ← spanAddress p fuel c
      pure (x :: more, c)

/-- The characters of a class at a place, written as they are or as bytes, and the place after
them. -/
def address (p : Char → Bool) (c : Cursor) : Option (List Char × Cursor) :=
  spanAddress p (c.rest.length + 1) c

/-- A handle, which starts with an exclamation mark and may end with one, and the place after it. -/
def handle? (c : Cursor) : Option (List Char × Cursor) :=
  if c.next ≠ '!' then none
  else
    let (name, c) := (c.after 1).span isHandleChar
    if c.next = '!' then some ('!' :: name ++ ['!'], c.after 1) else some ('!' :: name, c)

/-- A tag, and the place after it. -/
def tagParts? (c : Cursor) : Option (Tag × Cursor) := do
  if c.ahead 1 = '<' then
    let (suffix, c) ← address isAddressChar (c.after 2)
    if c.next = '>' then some (⟨"", String.ofList suffix⟩, c.after 1) else none
  else
    let (handle, c) ← handle? c
    let (suffix, c) ← address isSuffixChar c
    if 2 ≤ handle.length ∧ handle.getLast? = some '!' then
      if suffix.isEmpty then none else some (⟨String.ofList handle, String.ofList suffix⟩, c)
    else
      let suffix := handle.drop 1 ++ suffix
      if suffix.isEmpty then some (⟨"", "!"⟩, c) else some (⟨"!", String.ofList suffix⟩, c)

/-- A tag, and the place after it, where a word has to end. -/
def tag? (inFlow : Bool) (c : Cursor) : Option (Tag × Cursor) := do
  let (t, c) ← tagParts? c
  if isWordEnd c.next ∨ (inFlow ∧ isFlowMark c.next) then some (t, c) else none

/-- A character of the name of an anchor. -/
def isAnchorChar (c : Char) : Bool :=
  !isWordEnd c && !isFlowMark c && c != '\ufeff'

/-- The name after the sign of an anchor or a reference, and the place after it. -/
def anchor? (c : Cursor) : Option (String × Cursor) :=
  let (name, c) := (c.after 1).span isAnchorChar
  if name.isEmpty then none else some (String.ofList name, c)

/-- The number of digits that a part of a version may have. -/
def versionDigits : Nat := 9

/-- The place after a part of a version. -/
def versionPart? (c : Cursor) : Option Cursor :=
  let (digits, c) := c.span Decimal.isDigit
  if digits.isEmpty ∨ versionDigits < digits.length then none else some c

/-- What a directive with a name states, and the place after it. -/
def directiveNamed (name : String) (c : Cursor) : Option (Directive × Cursor) := do
  let spaces (c : Cursor) := c.afterSpaces (c.rest.takeWhile isSpace).length
  if name = "YAML" then
    let c ← versionPart? (spaces c)
    if c.next = '.' then pure (.version, ← versionPart? (c.after 1)) else none
  else if name = "TAG" then
    let (handle, c) ← handle? (spaces c)
    if 1 < handle.length ∧ handle.getLast? ≠ some '!' then none
    else
      let c := spaces c
      let (lead, c) ←
        if c.next = '!' then
          (address isAddressChar (c.after 1)).map (fun (more, c) => ('!' :: more, c))
        else if isSuffixChar c.next then address isAddressChar c
        else none
      if isWordEnd c.next then pure (.handle (String.ofList handle) (String.ofList lead), c)
      else none
  else pure (.handle "" "", c.lineEnd)

/-- A directive, and the place after its line. -/
def directive? (c : Cursor) : Option (Directive × Cursor) := do
  let (name, c) := (c.after 1).span isHandleChar
  if name.isEmpty ∨ !isWordEnd c.next then none
  else
    let (d, c) ← directiveNamed (String.ofList name) c
    let c ← c.afterComment?
    if isBreakOrEnd c.next then pure (d, c.afterBreak) else none

end SpotForecast.Yaml
