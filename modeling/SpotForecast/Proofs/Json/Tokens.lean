import SpotForecast.Json.Reader
import SpotForecast.Proofs.Decimal.Fixed
import SpotForecast.Proofs.Json.Strings

/-!
# The tokens of a text that was written

`tokensOf` says which tokens a value is written with.  The text of several lines has blanks between
them and the other one has none, and from both the tokens are read back (`readAs_prettyChars`,
`readAs_compactChars`).

A string ends with its last quote, but a number goes on as long as it can.  So a number is read only
up to where it was written if what stands behind it does not continue it (`EndsNumber`), and behind
a value stands a comma, a bracket, a line break or nothing.  The texts are put together piece by
piece: `ReadAs` says what a piece is read as in front of everything that does not continue a number.
-/

namespace SpotForecast.Json

variable {c : Char} {cs after rest tail digits : List Char} {token : Token} {ts : List Token}

/-! ### Numbers -/

/-- A character with which a number may go on. -/
def continuesNumber (c : Char) : Bool :=
  Decimal.isDigit c || c == '.' || c == 'e' || c == 'E'

/-- A text does not go on with a number in front of it. -/
def EndsNumber (rest : List Char) : Prop :=
  ∀ c after, rest = c :: after → continuesNumber c = false

theorem endsNumber_nil : EndsNumber [] := by
  intro c after h
  cases h

theorem endsNumber_cons (h : continuesNumber c = false) : EndsNumber (c :: after) := by
  intro d after' heq
  cases heq
  exact h

theorem EndsNumber.not_digit (h : EndsNumber (c :: after)) : Decimal.isDigit c = false := by
  have hc := h c after rfl
  simp only [continuesNumber, Bool.or_eq_false_iff] at hc
  exact hc.1.1.1

theorem EndsNumber.ne (h : EndsNumber (c :: after)) : c ≠ '.' ∧ c ≠ 'e' ∧ c ≠ 'E' := by
  have hc := h c after rfl
  simp only [continuesNumber, Bool.or_eq_false_iff, beq_eq_false_iff_ne] at hc
  exact ⟨hc.1.1.2, hc.1.2, hc.2⟩

theorem spanDigits_append (cs : List Char) (hrest : EndsNumber rest) :
    Decimal.spanDigits (cs ++ rest) =
      ((Decimal.spanDigits cs).1, (Decimal.spanDigits cs).2 ++ rest) := by
  simp only [Decimal.spanDigits, Prod.mk.injEq]
  induction cs with
  | nil =>
      cases rest with
      | nil => exact ⟨rfl, rfl⟩
      | cons c after => simp [hrest.not_digit]
  | cons c cs ih => by_cases hc : Decimal.isDigit c = true <;> simp [hc, ih]

theorem integerDigits_cons (c : Char) (cs : List Char) : integerDigits (c :: cs) =
    if c = '0' then some (['0'], cs)
    else if (Decimal.spanDigits (c :: cs)).1.isEmpty then none
    else some (Decimal.spanDigits (c :: cs)) := by
  by_cases hzero : c = '0'
  · subst hzero
    rfl
  · simp [integerDigits, hzero]

theorem fractionDigits_cons (c : Char) (cs : List Char) : fractionDigits (c :: cs) =
    if c = '.' then
      if (Decimal.spanDigits cs).1.isEmpty then none
      else some (some (Decimal.spanDigits cs).1, (Decimal.spanDigits cs).2)
    else some (none, c :: cs) := by
  by_cases hpoint : c = '.'
  · subst hpoint
    rfl
  · simp [fractionDigits, hpoint]

theorem exponentSign_cons (c : Char) (cs : List Char) : exponentSign (c :: cs) =
    if c = '-' then (true, cs) else if c = '+' then (false, cs) else (false, c :: cs) := by
  by_cases hminus : c = '-'
  · subst hminus
    rfl
  · by_cases hplus : c = '+'
    · subst hplus
      rfl
    · simp [exponentSign, hminus, hplus]

theorem numberSign_cons (c : Char) (cs : List Char) : numberSign (c :: cs) =
    if c = '-' then (true, cs) else (false, c :: cs) := by
  by_cases hminus : c = '-'
  · subst hminus
    rfl
  · simp [numberSign, hminus]

theorem integerDigits_append (h : integerDigits cs = some (digits, tail))
    (hrest : EndsNumber rest) : integerDigits (cs ++ rest) = some (digits, tail ++ rest) := by
  cases cs with
  | nil => cases h
  | cons c cs =>
      rw [List.cons_append, integerDigits_cons, ← List.cons_append, spanDigits_append _ hrest]
      rw [integerDigits_cons] at h
      split
      · rename_i hzero
        rw [if_pos hzero] at h
        cases h
        rfl
      · rename_i hzero
        rw [if_neg hzero] at h
        simp only [Option.ite_none_left_eq_some, Option.some.injEq] at h ⊢
        exact ⟨h.1, by rw [h.2]⟩

theorem fractionDigits_append {digits : Option (List Char)}
    (h : fractionDigits cs = some (digits, tail)) (hrest : EndsNumber rest) :
    fractionDigits (cs ++ rest) = some (digits, tail ++ rest) := by
  cases cs with
  | nil =>
      cases h
      cases rest with
      | nil => rfl
      | cons c after => rw [List.nil_append, fractionDigits_cons, if_neg hrest.ne.1]
  | cons c cs =>
      rw [List.cons_append, fractionDigits_cons, spanDigits_append _ hrest]
      rw [fractionDigits_cons] at h
      split
      · rename_i hpoint
        rw [if_pos hpoint] at h
        simp only [Option.ite_none_left_eq_some, Option.some.injEq, Prod.mk.injEq] at h ⊢
        exact ⟨h.1, h.2.1, by rw [h.2.2]⟩
      · rename_i hpoint
        rw [if_neg hpoint] at h
        cases h
        rfl

theorem exponentSign_append (hne : cs ≠ []) (rest : List Char) :
    exponentSign (cs ++ rest) = ((exponentSign cs).1, (exponentSign cs).2 ++ rest) := by
  obtain ⟨c, cs, rfl⟩ := List.exists_cons_of_ne_nil hne
  rw [List.cons_append, exponentSign_cons, exponentSign_cons]
  split
  · rfl
  · split <;> rfl

theorem exponentPart_append {exponent : Option Int}
    (h : exponentPart cs = some (exponent, tail)) (hrest : EndsNumber rest) :
    exponentPart (cs ++ rest) = some (exponent, tail ++ rest) := by
  cases cs with
  | nil =>
      cases h
      cases rest with
      | nil => rfl
      | cons c after =>
          have hletter : ¬(c = 'e' ∨ c = 'E') := not_or.mpr hrest.ne.2
          rw [List.nil_append, exponentPart, if_neg hletter]
  | cons c cs =>
      rw [exponentPart] at h
      rw [List.cons_append, exponentPart]
      split
      · rename_i hletter
        rw [if_pos hletter] at h
        have hne : cs ≠ [] := by
          intro hnil
          subst hnil
          cases h
        simp only [exponentSign_append hne, spanDigits_append _ hrest,
          Option.ite_none_left_eq_some, Option.some.injEq, Prod.mk.injEq] at h ⊢
        exact ⟨h.1, h.2.1, by rw [h.2.2]⟩
      · rename_i hletter
        rw [if_neg hletter] at h
        cases h
        rfl

/-- A number begins with a digit or with its sign. -/
theorem exists_head_of_scanNumber {n : Option Number} (h : scanNumber cs = some (n, tail)) :
    ∃ c after, cs = c :: after ∧ (c = '-' ∨ Decimal.isDigit c = true) := by
  cases cs with
  | nil => cases h
  | cons c after =>
      refine ⟨c, after, rfl, Classical.byContradiction fun hc => ?_⟩
      rw [not_or, Bool.not_eq_true] at hc
      have hzero : c ≠ '0' := by
        intro hzero
        subst hzero
        cases hc.2
      have hspan : (Decimal.spanDigits (c :: after)).1 = [] := by
        simp [Decimal.spanDigits, hc.2]
      have hsign : numberSign (c :: after) = (false, c :: after) := by
        rw [numberSign_cons, if_neg hc.1]
      have hdigits : integerDigits (c :: after) = none := by
        rw [integerDigits_cons, if_neg hzero, hspan]
        rfl
      rw [scanNumber, hsign, hdigits] at h
      cases h

/-- **Numbers.**  A number is read up to a text that does not continue it. -/
theorem scanNumber_append {n : Option Number} (h : scanNumber cs = some (n, tail))
    (hrest : EndsNumber rest) : scanNumber (cs ++ rest) = some (n, tail ++ rest) := by
  obtain ⟨c, after, rfl, -⟩ := exists_head_of_scanNumber h
  have hsign : numberSign (c :: after ++ rest) =
      ((numberSign (c :: after)).1, (numberSign (c :: after)).2 ++ rest) := by
    rw [List.cons_append, numberSign_cons, numberSign_cons]
    split <;> rfl
  simp only [scanNumber, Option.bind_eq_bind, Option.bind_eq_some_iff, Prod.exists,
    Option.pure_def, Option.some.injEq, Prod.mk.injEq] at h ⊢
  obtain ⟨whole, afterWhole, hw, fraction, afterFraction, hf, exponent, last, he, hn, rfl⟩ := h
  rw [hsign]
  exact ⟨whole, _, integerDigits_append hw hrest, fraction, _, fractionDigits_append hf hrest,
    exponent, _, exponentPart_append he hrest, hn, rfl⟩

/-! ### Numbers that are written -/

/-- A number that a text can have: an integer, or a double that is finite. -/
def Number.isFinite : Number → Bool
  | .integer _ => true
  | .real x => x.isFinite

/-- What is written for a number. -/
def Number.written (n : Number) : Written :=
  if n.isFinite then .number (some n) else .null

/-- The text of a number is read back as the number, if a text can have it. -/
def Number.ReadsBack (n : Number) : Prop :=
  n.isFinite = true → scanNumber n.text = some (some n, [])

theorem Number.text_of_not_isFinite {n : Number} (h : n.isFinite = false) :
    n.text = "null".toList := by
  cases n with
  | integer i => cases h
  | real x =>
      rw [isFinite] at h
      rw [text, realText, h, if_neg Bool.false_ne_true]

theorem integerDigits_digitsOf (n : Nat) :
    integerDigits (Decimal.digitsOf n) = some (Decimal.digitsOf n, []) := by
  rcases Nat.eq_zero_or_pos n with rfl | hn
  · rfl
  · have hspan : Decimal.spanDigits (Decimal.digitsOf n) = (Decimal.digitsOf n, []) := by
      have hdigits : ∀ c ∈ Decimal.digitsOf n, Decimal.isDigit c = true :=
        fun c => Decimal.isDigit_of_mem_digitsOf
      rw [Decimal.spanDigits, List.takeWhile_eq_self_iff.mpr hdigits,
        List.dropWhile_eq_nil_iff.mpr hdigits]
    obtain ⟨c, front, hfront⟩ := List.exists_cons_of_length_pos (Decimal.length_digitsOf_pos n)
    have hzero : c ≠ '0' := by
      intro hzero
      subst hzero
      exact Decimal.digitsOf_ne_zero_cons hn front hfront
    rw [hfront] at hspan ⊢
    rw [integerDigits_cons, if_neg hzero, hspan]
    rfl

/-- Integers of 64 bits, with or without sign, are read back. -/
theorem readsBack_integer {i : Int} (hleast : Decimal.leastSigned64 ≤ i)
    (hlimit : i < Decimal.limit64) : (Number.integer i).ReadsBack := by
  have hscan : ∀ sign, numberSign (Number.integer i).text = (sign, Decimal.digitsOf i.natAbs) →
      scanNumber (Number.integer i).text =
        some (number? sign (Decimal.digitsOf i.natAbs) none none, []) := by
    intro sign hsign
    rw [scanNumber, hsign, integerDigits_digitsOf]
    rfl
  intro _
  rcases lt_or_ge i 0 with hneg | hpos
  · have hsign : numberSign (Number.integer i).text = (true, Decimal.digitsOf i.natAbs) := by
      rw [Number.text, integerText, if_pos hneg, numberSign_cons, if_pos rfl]
    have hrange : i.natAbs ≠ 0 ∧ i.natAbs < Decimal.leastSigned64.natAbs + 1 := by omega
    rw [hscan _ hsign, number?]
    simp [hrange, abs_of_neg hneg]
  · have hsign : numberSign (Number.integer i).text = (false, Decimal.digitsOf i.natAbs) := by
      obtain ⟨c, front, hfront⟩ :=
        List.exists_cons_of_length_pos (Decimal.length_digitsOf_pos i.natAbs)
      have hdigit : Decimal.isDigit c = true :=
        Decimal.isDigit_of_mem_digitsOf (hfront ▸ List.mem_cons_self)
      have hminus : c ≠ '-' := by
        intro hminus
        subst hminus
        cases hdigit
      rw [Number.text, integerText, if_neg (by omega), hfront, numberSign_cons, if_neg hminus]
    have hrange : i.natAbs < Decimal.limit64 := by omega
    rw [hscan _ hsign, number?]
    simp [hrange, abs_of_nonneg hpos]

/-! ### Texts that are read as tokens -/

theorem tokens_cons_of_space (hc : isSpace c = true) : tokens (c :: cs) = tokens cs := by
  rw [tokens, if_pos hc]

theorem tokens_cons_of_scanToken (hc : isSpace c = false)
    (h : scanToken c cs = some (token, after)) (hafter : tokens after = some ts) :
    tokens (c :: cs) = some (token :: ts) := by
  rw [tokens, if_neg (Bool.eq_false_iff.mp hc)]
  split
  · rename_i hnone
    rw [h] at hnone
    cases hnone
  · rename_i hsome
    rw [h] at hsome
    cases hsome
    rw [hafter]
    rfl

/-- A text is read as some tokens, in front of everything that does not continue a number. -/
def ReadAs (cs : List Char) (written : List Token) : Prop :=
  ∀ rest ts, EndsNumber rest → tokens rest = some ts → tokens (cs ++ rest) = some (written ++ ts)

variable {written more : List Token}

theorem ReadAs.tokens_eq (h : ReadAs cs written) : tokens cs = some written := by
  have htokens := h [] [] endsNumber_nil (by rw [tokens])
  rwa [List.append_nil, List.append_nil] at htokens

theorem readAs_nil : ReadAs [] [] :=
  fun _ _ _ h => h

theorem EndsNumber.append (hcs : EndsNumber cs) (hrest : EndsNumber rest) :
    EndsNumber (cs ++ rest) := by
  cases cs with
  | nil => exact hrest
  | cons c cs => exact endsNumber_cons (hcs c cs rfl)

/-- One text after another. -/
theorem ReadAs.append (hcs : ReadAs cs written) (hmore : ReadAs after more)
    (hend : EndsNumber after) : ReadAs (cs ++ after) (written ++ more) := by
  intro rest ts hrest htokens
  rw [List.append_assoc, List.append_assoc]
  exact hcs _ _ (hend.append hrest) (hmore _ _ hrest htokens)

theorem ReadAs.blank (hcs : ReadAs cs written) (hc : isSpace c = true) :
    ReadAs (c :: cs) written := by
  intro rest ts hrest htokens
  rw [List.cons_append, tokens_cons_of_space hc]
  exact hcs _ _ hrest htokens

theorem ReadAs.mark (hcs : ReadAs cs written) (hc : mark? c = some token)
    (hspace : isSpace c = false) : ReadAs (c :: cs) (token :: written) := by
  intro rest ts hrest htokens
  have hscan : scanToken c (cs ++ rest) = some (token, cs ++ rest) := by
    rw [scanToken, hc]
  exact tokens_cons_of_scanToken hspace hscan (hcs _ _ hrest htokens)

theorem readAs_quote (s : String) : ReadAs (quote s.toList) [.text (some s)] := by
  intro rest ts _ htokens
  obtain ⟨parts, hscan, hjoin⟩ := scanString_quote s.toList rest
  have htoken : scanToken '"' (s.toList.flatMap escapeChar ++ '"' :: rest) =
      some (.text (some s), rest) := by
    rw [scanToken, show mark? '"' = none from rfl]
    simp [hscan, hjoin]
  rw [quote, List.append_assoc, List.cons_append]
  exact tokens_cons_of_scanToken rfl htoken htokens

/-- A word is no mark, so it is read as a word. -/
theorem readAs_word : ∀ p ∈ words, ReadAs p.1 [.scalar p.2] := by
  intro p hp rest ts _ htokens
  simp only [words, List.mem_cons, List.not_mem_nil, or_false] at hp
  rcases hp with rfl | rfl | rfl <;>
    exact tokens_cons_of_scanToken rfl rfl htokens

/-- What does not begin with a word is read as a number. -/
theorem scanScalar_of_number {n : Option Number} (hwords : ∀ p ∈ words, afterWord? p.1 cs = none)
    (h : scanNumber cs = some (n, after)) : scanScalar cs = some (.number n, after) := by
  rw [scanScalar]
  split
  · rename_i found hfound
    obtain ⟨p, hp, hp'⟩ := List.exists_of_findSome?_eq_some hfound
    simp only [hwords p hp] at hp'
    cases hp'
  · rw [h]
    rfl

/-- A text that begins like a number is no mark, no string and no word. -/
theorem scanToken_of_number {n : Option Number} (hc : c = '-' ∨ Decimal.isDigit c = true)
    (h : scanNumber (c :: cs) = some (n, after)) :
    isSpace c = false ∧ scanToken c cs = some (.scalar (.number n), after) := by
  have hne : ∀ d, d ≠ '-' → Decimal.isDigit d = false → c ≠ d := by
    intro d hminus hdigit hd
    subst hd
    rcases hc with hc | hc
    · exact hminus hc
    · rw [hc] at hdigit
      cases hdigit
  have hspace : isSpace c = false := by
    simp [isSpace, hne ' ' (by decide) rfl, hne '\t' (by decide) rfl, hne '\n' (by decide) rfl,
      hne '\r' (by decide) rfl]
  have hmark : mark? c = none := by
    simp [mark?, hne '[' (by decide) rfl, hne ']' (by decide) rfl, hne '\x7b' (by decide) rfl,
      hne '\x7d' (by decide) rfl, hne ':' (by decide) rfl, hne ',' (by decide) rfl]
  have hword : ∀ p ∈ words, afterWord? p.1 (c :: cs) = none := by
    simp [words, afterWord?, (hne 'n' (by decide) rfl).symm, (hne 't' (by decide) rfl).symm,
      (hne 'f' (by decide) rfl).symm]
  have hscalar := scanScalar_of_number hword h
  refine ⟨hspace, ?_⟩
  rw [scanToken, hmark]
  simp only [if_neg (hne '"' (by decide) rfl), hscalar, Option.map_some]

/-- **Scalars.**  A number is read as what is written for it. -/
theorem readAs_number {n : Number} (hn : n.ReadsBack) : ReadAs n.text [.scalar n.written] := by
  rw [Number.written]
  cases hfinite : n.isFinite with
  | false =>
      rw [Number.text_of_not_isFinite hfinite]
      exact readAs_word ("null".toList, .null) (by simp [words])
  | true =>
      intro rest ts hrest htokens
      obtain ⟨c, front, htext, hc⟩ := exists_head_of_scanNumber (hn hfinite)
      have hscan := scanNumber_append (hn hfinite) hrest
      rw [htext, List.cons_append, List.nil_append] at hscan
      obtain ⟨hspace, htoken⟩ := scanToken_of_number hc hscan
      rw [htext, List.cons_append]
      exact tokens_cons_of_scanToken hspace htoken htokens

/-! ### Values -/

mutual

/-- The tokens that a value is written with. -/
def tokensOf : Json → List Token
  | .null => [.scalar .null]
  | .bool b => [.scalar (.bool b)]
  | .number n => [.scalar n.written]
  | .string s => [.text (some s)]
  | .array items => .openArray :: itemTokens true items ++ [.closeArray]
  | .object members => .openObject :: memberTokens true members ++ [.closeObject]

/-- The tokens of items with commas between them; `first` says that none came before. -/
def itemTokens (first : Bool) : List Json → List Token
  | [] => []
  | v :: rest => (if first then [] else [.comma]) ++ tokensOf v ++ itemTokens false rest

/-- The tokens of members with commas between them; `first` says that none came before. -/
def memberTokens (first : Bool) : List (String × Json) → List Token
  | [] => []
  | (k, v) :: rest =>
    (if first then [] else [.comma]) ++ [.text (some k)] ++ .colon :: tokensOf v ++
      memberTokens false rest

end

mutual

/-- Every number of a value is read back. -/
def NumbersReadBack : Json → Prop
  | .number n => n.ReadsBack
  | .array items => ItemsReadBack items
  | .object members => MembersReadBack members
  | _ => True

/-- Every number of some items is read back. -/
def ItemsReadBack : List Json → Prop
  | [] => True
  | v :: rest => v.NumbersReadBack ∧ ItemsReadBack rest

/-- Every number of the values of some members is read back. -/
def MembersReadBack : List (String × Json) → Prop
  | [] => True
  | (_, v) :: rest => v.NumbersReadBack ∧ MembersReadBack rest

end

/-- A text that stands behind a comma, if it is not the first one. -/
theorem ReadAs.afterComma (hcs : ReadAs cs written) (first : Bool) :
    ReadAs ((if first then [] else [',']) ++ cs)
      ((if first then [] else [.comma]) ++ written) := by
  cases first
  · exact hcs.mark rfl rfl
  · exact hcs

/-- A text with a bracket behind it. -/
theorem ReadAs.close (hcs : ReadAs cs written) (hc : mark? c = some token)
    (hspace : isSpace c = false) (hend : continuesNumber c = false) :
    ReadAs (cs ++ [c]) (written ++ [token]) :=
  hcs.append (readAs_nil.mark hc hspace) (endsNumber_cons hend)

theorem endsNumber_compactItems (items : List Json) : EndsNumber (compactItems false items) := by
  cases items with
  | nil => exact endsNumber_nil
  | cons v rest => exact endsNumber_cons rfl

theorem endsNumber_compactMembers (members : List (String × Json)) :
    EndsNumber (compactMembers false members) := by
  cases members with
  | nil => exact endsNumber_nil
  | cons member rest => exact endsNumber_cons rfl

mutual

/-- **Without blanks.**  The tokens of a value are read. -/
theorem readAs_compactChars : ∀ v : Json, v.NumbersReadBack → ReadAs (compactChars v) (tokensOf v)
  | .null, _ => readAs_word ("null".toList, .null) (by simp [words])
  | .bool true, _ => readAs_word ("true".toList, .bool true) (by simp [words])
  | .bool false, _ => readAs_word ("false".toList, .bool false) (by simp [words])
  | .number _, h => readAs_number h
  | .string s, _ => readAs_quote s
  | .array items, h => ((readAs_compactItems true items h).mark rfl rfl).close rfl rfl rfl
  | .object members, h => ((readAs_compactMembers true members h).mark rfl rfl).close rfl rfl rfl

theorem readAs_compactItems : ∀ (first : Bool) (items : List Json), ItemsReadBack items →
    ReadAs (compactItems first items) (itemTokens first items)
  | _, [], _ => readAs_nil
  | first, v :: rest, h =>
    ((readAs_compactChars v h.1).afterComma first).append (readAs_compactItems false rest h.2)
      (endsNumber_compactItems rest)

theorem readAs_compactMembers : ∀ (first : Bool) (members : List (String × Json)),
    MembersReadBack members → ReadAs (compactMembers first members) (memberTokens first members)
  | _, [], _ => readAs_nil
  | first, (k, v) :: rest, h => by
      have hkey := (readAs_quote k).afterComma first
      have hvalue : ReadAs (':' :: compactChars v) (.colon :: tokensOf v) :=
        (readAs_compactChars v h.1).mark rfl rfl
      have hrest := readAs_compactMembers false rest h.2
      exact (hkey.append hvalue (endsNumber_cons rfl)).append hrest
        (endsNumber_compactMembers rest)

end

theorem ReadAs.blanks (hcs : ReadAs cs written) (n : Nat) :
    ReadAs (List.replicate n ' ' ++ cs) written := by
  induction n with
  | zero => exact hcs
  | succ n ih => exact ih.blank rfl

/-- The indentation of a line does not count. -/
theorem ReadAs.onNewLine (hcs : ReadAs cs written) (level : Nat) :
    ReadAs (newLine level ++ cs) written :=
  (hcs.blanks (2 * level)).blank rfl

/-- A text with a bracket on a line of its own behind it. -/
theorem ReadAs.closeOnNewLine (hcs : ReadAs cs written) (level : Nat) (hc : mark? c = some token)
    (hspace : isSpace c = false) :
    ReadAs (cs ++ newLine level ++ [c]) (written ++ [token]) := by
  rw [List.append_assoc]
  exact hcs.append ((readAs_nil.mark hc hspace).onNewLine level) (endsNumber_cons rfl)

theorem endsNumber_prettyItems (level : Nat) (items : List Json) :
    EndsNumber (prettyItems level false items) := by
  cases items with
  | nil => exact endsNumber_nil
  | cons v rest => exact endsNumber_cons rfl

theorem endsNumber_prettyMembers (level : Nat) (members : List (String × Json)) :
    EndsNumber (prettyMembers level false members) := by
  cases members with
  | nil => exact endsNumber_nil
  | cons member rest => exact endsNumber_cons rfl

mutual

/-- **Lines.**  The tokens of a value are read. -/
theorem readAs_prettyChars : ∀ (level : Nat) (v : Json), v.NumbersReadBack →
    ReadAs (prettyChars level v) (tokensOf v)
  | _, .null, h => readAs_compactChars .null h
  | _, .bool b, h => readAs_compactChars (.bool b) h
  | _, .number n, h => readAs_compactChars (.number n) h
  | _, .string s, h => readAs_compactChars (.string s) h
  | _, .array [], h => readAs_compactChars (.array []) h
  | _, .object [], h => readAs_compactChars (.object []) h
  | level, .array (item :: items), h =>
    ((readAs_prettyItems (level + 1) true (item :: items) h).mark rfl rfl).closeOnNewLine level
      rfl rfl
  | level, .object (member :: members), h =>
    ((readAs_prettyMembers (level + 1) true (member :: members) h).mark rfl rfl).closeOnNewLine
      level rfl rfl

theorem readAs_prettyItems : ∀ (level : Nat) (first : Bool) (items : List Json),
    ItemsReadBack items → ReadAs (prettyItems level first items) (itemTokens first items)
  | _, _, [], _ => readAs_nil
  | level, first, v :: rest, h => by
      have hitem := ((readAs_prettyChars level v h.1).onNewLine level).afterComma first
      have hrest := readAs_prettyItems level false rest h.2
      rw [← List.append_assoc] at hitem
      exact hitem.append hrest (endsNumber_prettyItems level rest)

theorem readAs_prettyMembers : ∀ (level : Nat) (first : Bool) (members : List (String × Json)),
    MembersReadBack members →
      ReadAs (prettyMembers level first members) (memberTokens first members)
  | _, _, [], _ => readAs_nil
  | level, first, (k, v) :: rest, h => by
      have hkey := ((readAs_quote k).onNewLine level).afterComma first
      have hvalue : ReadAs (':' :: ' ' :: prettyChars level v) (.colon :: tokensOf v) :=
        ((readAs_prettyChars level v h.1).blank rfl).mark rfl rfl
      have hrest := readAs_prettyMembers level false rest h.2
      rw [← List.append_assoc] at hkey
      exact (hkey.append hvalue (endsNumber_cons rfl)).append hrest
        (endsNumber_prettyMembers level rest)

end

end SpotForecast.Json
