import SpotForecast.Decimal.Stepwise
import SpotForecast.Json.Written
import SpotForecast.Text.Radix

/-!
# The tokens of a JSON text

A JSON text is a sequence of brackets, separators, words, numbers and strings with blanks between
them.  `Json.tokens` gives that sequence, or nothing where some part of the text is none of these.

* A string holds no character below the blank.  A character outside the basic plane may be written
  as an escaped high surrogate followed at once by an escaped low one; a string in which a surrogate
  stands alone has the form of a string, but it denotes no text.
* A number has no superfluous leading zero.  Without point and exponent it is an integer if it
  fits 64 bits (with or without sign); everything else, `-0` included, is a double, which has to be
  finite for the number to be in range.
-/

namespace SpotForecast.Json

/-- A token of a JSON text. -/
inductive Token where
  | openArray
  | closeArray
  | openObject
  | closeObject
  | colon
  | comma
  /-- A string, if its escapes denote characters. -/
  | text (s : Option String)
  | scalar (w : Written)

/-- Where the reading of a string stands. -/
inductive StringState where
  | plain
  | escape
  /-- Inside a numeric escape: the number of digits still to come and the value of those read. -/
  | hex (left : Nat) (value : Nat)

/-- What a string is made of. -/
inductive StringPart where
  | char (c : Char)
  /-- The number of an escape; it may be half of a surrogate pair. -/
  | unit (n : Nat)
deriving DecidableEq, Repr

/-- The character that a backslash and a letter stand for. -/
def unescape? (c : Char) : Option Char :=
  if c = '"' ∨ c = '\\' ∨ c = '/' then some c
  else if c = 'b' then some '\x08'
  else if c = 'f' then some '\x0c'
  else if c = 'n' then some '\n'
  else if c = 'r' then some '\r'
  else if c = 't' then some '\t'
  else none

/-- The first half of a surrogate pair. -/
def isHighSurrogate (n : Nat) : Bool :=
  0xD800 ≤ n && n < 0xDC00

/-- The second half of a surrogate pair. -/
def isLowSurrogate (n : Nat) : Bool :=
  0xDC00 ≤ n && n < 0xE000

/-- The character of a surrogate pair. -/
def pairChar (high low : Nat) : Char :=
  Char.ofNat (0x10000 + (high - 0xD800) * 0x400 + (low - 0xDC00))

/-- The text of a string with these parts, if no surrogate stands alone. -/
def joinParts : List StringPart → Option (List Char)
  | [] => some []
  | .char c :: rest => (joinParts rest).map (c :: ·)
  | .unit high :: .unit low :: rest =>
    if isHighSurrogate high then
      if isLowSurrogate low then (joinParts rest).map (pairChar high low :: ·) else none
    else if isLowSurrogate high then none
    else (joinParts (.unit low :: rest)).map (Char.ofNat high :: ·)
  | .unit n :: rest =>
    if isHighSurrogate n || isLowSurrogate n then none
    else (joinParts rest).map (Char.ofNat n :: ·)

/-- Puts a part in front of the string that has been read. -/
def consPart (part : StringPart) :
    Option (List StringPart × List Char) → Option (List StringPart × List Char)
  | some (parts, rest) => some (part :: parts, rest)
  | none => none

/-- The rest of a string up to the quote that ends it, and the text after that quote. -/
def scanString : StringState → List Char → Option (List StringPart × List Char)
  | _, [] => none
  | .plain, c :: rest =>
    if c = '"' then some ([], rest)
    else if c = '\\' then scanString .escape rest
    else if c.toNat < 0x20 then none
    else consPart (.char c) (scanString .plain rest)
  | .escape, c :: rest =>
    if c = 'u' then scanString (.hex 4 0) rest
    else match unescape? c with
      | some d => consPart (.char d) (scanString .plain rest)
      | none => none
  | .hex left value, c :: rest =>
    match Text.digit? 16 c with
    | none => none
    | some d =>
      let value := 16 * value + d
      if 1 < left then scanString (.hex (left - 1) value) rest
      else consPart (.unit value) (scanString .plain rest)

/-- Reading a string uses up at least one character. -/
theorem length_of_scanString {state : StringState} {cs rest : List Char}
    {s : List StringPart} (h : scanString state cs = some (s, rest)) : rest.length < cs.length := by
  induction cs generalizing state s with
  | nil => cases state <;> simp [scanString] at h
  | cons c cs ih =>
    have push : ∀ {d : StringPart} {st : StringState},
        consPart d (scanString st cs) = some (s, rest) → rest.length < (c :: cs).length := by
      intro d st hd
      cases hr : scanString st cs with
      | none => simp [hr, consPart] at hd
      | some p =>
        obtain ⟨t, r⟩ := p
        simp only [hr, consPart, Option.some.injEq, Prod.mk.injEq] at hd
        obtain ⟨_, rfl⟩ := hd
        have := ih hr
        simp only [List.length_cons]
        omega
    have go : ∀ {st : StringState},
        scanString st cs = some (s, rest) → rest.length < (c :: cs).length := by
      intro st hd
      have := ih hd
      simp only [List.length_cons]
      omega
    cases state <;> simp only [scanString] at h <;> (repeat' split at h) <;>
      first
        | exact push h
        | exact go h
        | (simp only [Option.some.injEq, Prod.mk.injEq] at h; simp [← h.2])
        | simp at h

/-- The digits of an integer without a superfluous zero, and the text after them. -/
def integerDigits (cs : List Char) : Option (List Char × List Char) :=
  match cs with
  | '0' :: rest => some (['0'], rest)
  | _ =>
    let (digits, rest) := Decimal.spanDigits cs
    if digits.isEmpty then none else some (digits, rest)

/-- The digits after a point, if there is one. -/
def fractionDigits (cs : List Char) : Option (Option (List Char) × List Char) :=
  match cs with
  | '.' :: rest =>
    let (digits, rest) := Decimal.spanDigits rest
    if digits.isEmpty then none else some (some digits, rest)
  | _ => some (none, cs)

/-- The sign of an exponent, which may be left out, and the text after it. -/
def exponentSign (cs : List Char) : Bool × List Char :=
  match cs with
  | '-' :: rest => (true, rest)
  | '+' :: rest => (false, rest)
  | _ => (false, cs)

/-- The exponent, if there is one. -/
def exponentPart (cs : List Char) : Option (Option Int × List Char) :=
  match cs with
  | c :: rest =>
    if c = 'e' ∨ c = 'E' then
      let (negative, unsigned) := exponentSign rest
      let (digits, after) := Decimal.spanDigits unsigned
      if digits.isEmpty then none
      else
        let value : Int := Decimal.valueOf digits
        some (some (if negative then -value else value), after)
    else some (none, cs)
  | [] => some (none, cs)

/-- The number with a sign, the digits before and after the point, and an exponent, if it is in
range. -/
def number? (negative : Bool) (whole : List Char) (fraction : Option (List Char))
    (exponent : Option Int) : Option Number :=
  let value := Decimal.valueOf whole
  let limit := if negative then Decimal.leastSigned64.natAbs + 1 else Decimal.limit64
  if fraction.isNone ∧ exponent.isNone ∧ ¬ (negative ∧ value = 0) ∧ value < limit then
    some (.integer (if negative then -value else value))
  else
    (Decimal.stepwise whole (fraction.getD []) (exponent.getD 0)).map
      (fun x => .real (if negative then -x else x))

/-- Whether a number is negative, and the text after its sign. -/
def numberSign (cs : List Char) : Bool × List Char :=
  match cs with
  | '-' :: rest => (true, rest)
  | _ => (false, cs)

/-- A number at the start of a text, and the text after it. -/
def scanNumber (cs : List Char) : Option (Option Number × List Char) := do
  let (whole, afterWhole) ← integerDigits (numberSign cs).2
  let (fraction, afterFraction) ← fractionDigits afterWhole
  let (exponent, rest) ← exponentPart afterFraction
  pure (number? (numberSign cs).1 whole fraction exponent, rest)

/-- What follows a word at the start of a text. -/
def afterWord? (word : List Char) (cs : List Char) : Option (List Char) :=
  if word.isPrefixOf cs then some (cs.drop word.length) else none

/-- The words of JSON and the values that they stand for. -/
def words : List (List Char × Written) :=
  [("null".toList, .null), ("true".toList, .bool true), ("false".toList, .bool false)]

/-- A word or a number at the start of a text, and the text after it. -/
def scanScalar (cs : List Char) : Option (Written × List Char) :=
  match words.findSome? (fun (word, v) => (afterWord? word cs).map (fun rest => (v, rest))) with
  | some found => some found
  | none => (scanNumber cs).map (fun (n, rest) => (.number n, rest))

/-- A blank between tokens. -/
def isSpace (c : Char) : Bool :=
  c == ' ' || c == '\t' || c == '\n' || c == '\r'

/-- The token of a single character. -/
def mark? (c : Char) : Option Token :=
  if c = '[' then some .openArray
  else if c = ']' then some .closeArray
  else if c = '\x7b' then some .openObject
  else if c = '\x7d' then some .closeObject
  else if c = ':' then some .colon
  else if c = ',' then some .comma
  else none

/-- The first token of a text that does not start with a blank, and the text after it. -/
def scanToken (c : Char) (rest : List Char) : Option (Token × List Char) :=
  match mark? c with
  | some token => some (token, rest)
  | none =>
    if c = '"' then
      (scanString .plain rest).map
        (fun (parts, rest) => (.text ((joinParts parts).map String.ofList), rest))
    else (scanScalar (c :: rest)).map (fun (v, rest) => (.scalar v, rest))

/-- The digits at the start of a text are no longer than the text. -/
theorem length_spanDigits (cs : List Char) :
    (Decimal.spanDigits cs).1.length + (Decimal.spanDigits cs).2.length = cs.length := by
  rw [← List.length_append]
  simp [Decimal.spanDigits]

/-- An integer uses up at least one character. -/
theorem length_of_integerDigits {cs digits rest : List Char}
    (h : integerDigits cs = some (digits, rest)) : rest.length < cs.length := by
  have hl := length_spanDigits cs
  unfold integerDigits at h
  split at h
  · simp at h; simp [h.2]
  · simp only [Option.ite_none_left_eq_some, Option.some.injEq, Prod.mk.injEq,
      List.isEmpty_iff] at h
    obtain ⟨hne, rfl, rfl⟩ := h
    have := List.length_pos_iff.mpr hne
    omega

/-- A fraction adds nothing to the text. -/
theorem length_of_fractionDigits {cs rest : List Char} {digits : Option (List Char)}
    (h : fractionDigits cs = some (digits, rest)) : rest.length ≤ cs.length := by
  unfold fractionDigits at h
  split at h
  · rename_i after
    have hl := length_spanDigits after
    simp only [Option.ite_none_left_eq_some, Option.some.injEq, Prod.mk.injEq] at h
    obtain ⟨_, _, rfl⟩ := h
    simp only [List.length_cons]
    omega
  · simp only [Option.some.injEq, Prod.mk.injEq] at h
    simp [h.2]

/-- A sign adds nothing to the text. -/
theorem length_exponentSign (cs : List Char) : (exponentSign cs).2.length ≤ cs.length := by
  unfold exponentSign
  split <;> simp

/-- An exponent adds nothing to the text. -/
theorem length_of_exponentPart {cs rest : List Char} {value : Option Int}
    (h : exponentPart cs = some (value, rest)) : rest.length ≤ cs.length := by
  unfold exponentPart at h
  split at h
  · rename_i c after
    have hs := length_exponentSign after
    have hl := length_spanDigits (exponentSign after).2
    split at h
    · simp only [Option.ite_none_left_eq_some, Option.some.injEq, Prod.mk.injEq] at h
      obtain ⟨_, _, rfl⟩ := h
      simp only [List.length_cons]
      omega
    · simp only [Option.some.injEq, Prod.mk.injEq] at h
      simp [← h.2]
  · simp only [Option.some.injEq, Prod.mk.injEq] at h
    simp [← h.2]

/-- A sign adds nothing to the text. -/
theorem length_numberSign (cs : List Char) : (numberSign cs).2.length ≤ cs.length := by
  unfold numberSign
  split <;> simp

/-- A number uses up at least one character. -/
theorem length_of_scanNumber {cs rest : List Char} {n : Option Number}
    (h : scanNumber cs = some (n, rest)) : rest.length < cs.length := by
  simp only [scanNumber, Option.bind_eq_bind, Option.bind_eq_some_iff, Prod.exists,
    Option.pure_def, Option.some.injEq, Prod.mk.injEq] at h
  obtain ⟨whole, afterWhole, hw, fraction, afterFraction, hf, exponent, rest', he, _, rfl⟩ := h
  have := length_numberSign cs
  have := length_of_integerDigits hw
  have := length_of_fractionDigits hf
  have := length_of_exponentPart he
  omega

/-- A word or a number uses up at least one character. -/
theorem length_of_scanScalar {cs rest : List Char} {w : Written}
    (h : scanScalar cs = some (w, rest)) : rest.length < cs.length := by
  unfold scanScalar at h
  split at h
  · rename_i found hf
    obtain rfl := Option.some.inj h
    obtain ⟨⟨word, v⟩, hmem, hword⟩ := List.exists_of_findSome?_eq_some hf
    simp only [Option.map_eq_some_iff, Prod.mk.injEq] at hword
    obtain ⟨after, ha, _, rfl⟩ := hword
    unfold afterWord? at ha
    simp only [Option.ite_none_right_eq_some, Option.some.injEq] at ha
    obtain ⟨hp, rfl⟩ := ha
    have hle := (List.isPrefixOf_iff_prefix.mp hp).length_le
    have hpos : 0 < word.length := by
      simp only [words, List.mem_cons, Prod.mk.injEq, List.not_mem_nil, or_false] at hmem
      rcases hmem with ⟨rfl, _⟩ | ⟨rfl, _⟩ | ⟨rfl, _⟩ <;> decide
    rw [List.length_drop]
    omega
  · simp only [Option.map_eq_some_iff, Prod.exists, Prod.mk.injEq] at h
    obtain ⟨n, after, hn, _, rfl⟩ := h
    exact length_of_scanNumber hn

/-- What follows the first token is shorter than the text. -/
theorem length_of_scanToken {c : Char} {rest after : List Char} {token : Token}
    (h : scanToken c rest = some (token, after)) : after.length < rest.length + 1 := by
  unfold scanToken at h
  split at h
  · simp only [Option.some.injEq, Prod.mk.injEq] at h
    rw [← h.2]
    omega
  · split at h
    · simp only [Option.map_eq_some_iff, Prod.exists, Prod.mk.injEq] at h
      obtain ⟨s, after', hs, _, rfl⟩ := h
      have := length_of_scanString hs
      omega
    · simp only [Option.map_eq_some_iff, Prod.exists, Prod.mk.injEq] at h
      obtain ⟨v, after', hv, _, rfl⟩ := h
      have := length_of_scanScalar hv
      simpa using this

/-- The tokens of a text. -/
def tokens (cs : List Char) : Option (List Token) :=
  match cs with
  | [] => some []
  | c :: rest =>
    if isSpace c then tokens rest
    else
      match h : scanToken c rest with
      | none => none
      | some (token, after) =>
        have := length_of_scanToken h
        (tokens after).map (token :: ·)
termination_by cs.length

end SpotForecast.Json
