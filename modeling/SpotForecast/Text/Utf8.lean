/-!
# Characters in bytes

`decode` reads bytes as UTF-8.  It gives every character, and nothing for every run of bytes that
starts like a character and does not go on like one; such a run ends before the first byte that
cannot belong to it.

* `text?` is the text if there is no such run.
* `readable` is the text up to the first line that has such a run.
-/

namespace SpotForecast.Text.Utf8

/-- A character of which some bytes have been read: the value of their bits, the number of bytes
that are left, and the least and the greatest value that the next one may have. -/
structure Pending where
  value : Nat
  left : Nat
  low : Nat
  high : Nat
deriving DecidableEq, Repr

/-- What has been read of a text in bytes: what the last byte completed, and the character that it
belongs to if that goes on. -/
abbrev Step := List (Option Char) × Option Pending

/-- The first byte of a character. -/
def first (b : Nat) : Step :=
  if b ≤ 0x7F then ([some (Char.ofNat b)], none)
  else if 0xC2 ≤ b ∧ b ≤ 0xDF then ([], some ⟨b - 0xC0, 1, 0x80, 0xBF⟩)
  else if b = 0xE0 then ([], some ⟨0, 2, 0xA0, 0xBF⟩)
  else if b = 0xED then ([], some ⟨0xD, 2, 0x80, 0x9F⟩)
  else if 0xE1 ≤ b ∧ b ≤ 0xEF then ([], some ⟨b - 0xE0, 2, 0x80, 0xBF⟩)
  else if b = 0xF0 then ([], some ⟨0, 3, 0x90, 0xBF⟩)
  else if 0xF1 ≤ b ∧ b ≤ 0xF3 then ([], some ⟨b - 0xF0, 3, 0x80, 0xBF⟩)
  else if b = 0xF4 then ([], some ⟨4, 3, 0x80, 0x8F⟩)
  else ([none], none)

/-- One more byte. -/
def step (pending : Option Pending) (b : Nat) : Step :=
  match pending with
  | none => first b
  | some p =>
    if p.low ≤ b ∧ b ≤ p.high then
      let value := 64 * p.value + (b - 0x80)
      if p.left = 1 then ([some (Char.ofNat value)], none)
      else ([], some ⟨value, p.left - 1, 0x80, 0xBF⟩)
    else
      let (done, next) := first b
      (none :: done, next)

/-- The characters of bytes that follow a part of a character. -/
def decodeFrom (pending : Option Pending) : List Nat → List (Option Char)
  | [] => if pending.isSome then [none] else []
  | b :: rest =>
    let (done, next) := step pending b
    done ++ decodeFrom next rest

/-- The characters of bytes, and nothing for every run of bytes that is no character. -/
def decode (bytes : List Nat) : List (Option Char) :=
  decodeFrom none bytes

/-- The text of characters, if nothing is missing. -/
def text? (cs : List (Option Char)) : Option String :=
  (cs.mapM id).map String.ofList

/-- The lines before the first one in which a character is missing; `line` is what has been read of
the present one, the last character first. -/
def readableFrom (line : List Char) : List (Option Char) → List Char
  | [] => line.reverse
  | none :: _ => []
  | some c :: rest =>
    if c = '\n' then (c :: line).reverse ++ readableFrom [] rest else readableFrom (c :: line) rest

/-- The text of the lines before the first one in which a character is missing. -/
def readable (cs : List (Option Char)) : String :=
  String.ofList (readableFrom [] cs)

end SpotForecast.Text.Utf8
