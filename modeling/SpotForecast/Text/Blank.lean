/-!
# White space and line breaks

The classes of characters that the price feed, the category list and the settings treat as empty.

* `isBlank` is the Unicode property `White_Space`: twenty-five code points.
* `isLineBreak` is the seven vertical ones among them, which separate entries of the category list.
* `trim` takes blanks away from both ends of a text and touches nothing between them.
-/

namespace SpotForecast.Text

/-- A character with the Unicode property `White_Space`. -/
def isBlank (c : Char) : Bool :=
  let n := c.toNat
  (0x09 ≤ n && n ≤ 0x0D) || n == 0x20 || n == 0x85 || n == 0xA0 || n == 0x1680 ||
    (0x2000 ≤ n && n ≤ 0x200A) || n == 0x2028 || n == 0x2029 || n == 0x202F || n == 0x205F ||
    n == 0x3000

/-- A character that ends an entry of the category list: line feed, vertical tab, form feed,
carriage return, next line, line separator or paragraph separator. -/
def isLineBreak (c : Char) : Bool :=
  c == '\n' || c == '\x0b' || c == '\x0c' || c == '\r' || c == '\u0085' || c == '\u2028' ||
    c == '\u2029'

theorem isLineBreak_iff {c : Char} : isLineBreak c = true ↔
    c ∈ ['\n', '\x0b', '\x0c', '\r', '\u0085', '\u2028', '\u2029'] := by
  simp [isLineBreak, or_assoc]

/-- A text without the blanks at its start. -/
def trimStart (cs : List Char) : List Char :=
  cs.dropWhile isBlank

/-- A text without the blanks at its end. -/
def trimEnd (cs : List Char) : List Char :=
  (cs.reverse.dropWhile isBlank).reverse

/-- A text without the blanks at either end. -/
def trim (cs : List Char) : List Char :=
  trimEnd (trimStart cs)

end SpotForecast.Text
