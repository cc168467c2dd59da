import SpotForecast.Json.Token
import SpotForecast.Json.Writer

/-!
# Strings that are written and read

A string is written character by character, and each character is read back as one part
(`exists_scanString_escapeChar`): as the character, after a backslash if it is one of those that
need it, or as the number of an escape.  Only characters below the blank are written by number, so
none of these numbers is half of a surrogate pair, and joining the parts gives the string
(`scanString_quote`).
-/

namespace SpotForecast.Json

variable {c : Char} {n : Nat} {rest : List Char}

theorem digit?_hexDigit : ∀ n < 16, Text.digit? 16 (hexDigit n) = some n := by
  decide

/-- A part stands for a character, whatever stands behind it. -/
def StringPart.Spells (part : StringPart) (c : Char) : Prop :=
  ∀ parts, joinParts (part :: parts) = (joinParts parts).map (c :: ·)

theorem spells_char (c : Char) : (StringPart.char c).Spells c := fun _ => rfl

/-- A number outside the surrogates stands for its character. -/
theorem spells_unit (hhigh : isHighSurrogate n = false) (hlow : isLowSurrogate n = false) :
    (StringPart.unit n).Spells (Char.ofNat n) := by
  intro parts
  cases parts with
  | nil => simp [joinParts, hhigh, hlow]
  | cons next parts => cases next <;> simp [joinParts, hhigh, hlow]

theorem scanString_of_plain (hquote : c ≠ '"') (hslash : c ≠ '\\') (hcontrol : ¬c.toNat < 0x20) :
    scanString .plain (c :: rest) = consPart (.char c) (scanString .plain rest) := by
  rw [scanString, if_neg hquote, if_neg hslash, if_neg hcontrol]

theorem scanString_of_escape {letter : Char} (hletter : letter ≠ 'u')
    (hc : unescape? letter = some c) :
    scanString .plain ('\\' :: letter :: rest) = consPart (.char c) (scanString .plain rest) := by
  have hescaped : scanString .plain ('\\' :: letter :: rest) =
      scanString .escape (letter :: rest) := by
    rw [scanString, if_neg (by decide), if_pos rfl]
  rw [hescaped, scanString, if_neg hletter, hc]

theorem scanString_of_control (hn : n < 0x20) :
    scanString .plain
        ('\\' :: 'u' :: '0' :: '0' :: hexDigit (n / 16) :: hexDigit (n % 16) :: rest) =
      consPart (.unit n) (scanString .plain rest) := by
  have hzero : Text.digit? 16 '0' = some 0 := digit?_hexDigit 0 (by decide)
  have hhigh := digit?_hexDigit (n / 16) (by omega)
  have hlow := digit?_hexDigit (n % 16) (by omega)
  have hvalue : 16 * (16 * (16 * (16 * 0 + 0) + 0) + n / 16) + n % 16 = n := by omega
  simp only [scanString, hzero, hhigh, hlow, hvalue]
  rfl

/-- The characters that are written with a letter after a backslash, and these letters. -/
def escapeLetters : List (Char × Char) :=
  [('"', '"'), ('\\', '\\'), ('\x08', 'b'), ('\t', 't'), ('\n', 'n'), ('\x0c', 'f'), ('\r', 'r')]

theorem escapeChar_of_mem : ∀ p ∈ escapeLetters,
    escapeChar p.1 = ['\\', p.2] ∧ p.2 ≠ 'u' ∧ unescape? p.2 = some p.1 := by
  decide

theorem escapeChar_of_forall_ne (h : ∀ p ∈ escapeLetters, c ≠ p.1) : escapeChar c =
    if c.toNat < 0x20 then
      ['\\', 'u', '0', '0', hexDigit (c.toNat / 16), hexDigit (c.toNat % 16)]
    else [c] := by
  simp only [escapeLetters, List.forall_mem_cons] at h
  obtain ⟨h1, h2, h3, h4, h5, h6, h7, -⟩ := h
  rw [escapeChar, if_neg h1, if_neg h2, if_neg h3, if_neg h4, if_neg h5, if_neg h6, if_neg h7]

/-- **Characters.**  What is written for a character is read as one part that stands for it. -/
theorem exists_scanString_escapeChar (c : Char) (rest : List Char) : ∃ part : StringPart,
    part.Spells c ∧
      scanString .plain (escapeChar c ++ rest) = consPart part (scanString .plain rest) := by
  by_cases hletter : ∃ p ∈ escapeLetters, c = p.1
  · obtain ⟨p, hp, rfl⟩ := hletter
    obtain ⟨hescape, hu, hread⟩ := escapeChar_of_mem p hp
    rw [hescape]
    exact ⟨_, spells_char _, scanString_of_escape hu hread⟩
  · have hne : ∀ p ∈ escapeLetters, c ≠ p.1 := fun p hp h => hletter ⟨p, hp, h⟩
    rw [escapeChar_of_forall_ne hne]
    by_cases hcontrol : c.toNat < 0x20
    · rw [if_pos hcontrol]
      have hhigh : isHighSurrogate c.toNat = false := by
        rw [isHighSurrogate, Bool.and_eq_false_iff]
        exact .inl (decide_eq_false (by omega))
      have hlow : isLowSurrogate c.toNat = false := by
        rw [isLowSurrogate, Bool.and_eq_false_iff]
        exact .inl (decide_eq_false (by omega))
      have hspells := spells_unit hhigh hlow
      rw [Char.ofNat_toNat] at hspells
      exact ⟨_, hspells, scanString_of_control hcontrol⟩
    · rw [if_neg hcontrol]
      exact ⟨_, spells_char c, scanString_of_plain (hne ('"', '"') (by decide))
        (hne ('\\', '\\') (by decide)) hcontrol⟩

/-- **Strings.**  What is written between the quotes is read up to the last of them, and it denotes
the string. -/
theorem scanString_quote (cs rest : List Char) : ∃ parts,
    scanString .plain (cs.flatMap escapeChar ++ '"' :: rest) = some (parts, rest) ∧
      joinParts parts = some cs := by
  induction cs with
  | nil => exact ⟨[], by rw [List.flatMap_nil, List.nil_append, scanString, if_pos rfl], rfl⟩
  | cons c cs ih =>
      obtain ⟨parts, hscan, hjoin⟩ := ih
      obtain ⟨part, hpart, hchar⟩ :=
        exists_scanString_escapeChar c (cs.flatMap escapeChar ++ '"' :: rest)
      refine ⟨part :: parts, ?_, ?_⟩
      · rw [List.flatMap_cons, List.append_assoc, hchar, hscan, consPart]
      · rw [hpart, hjoin, Option.map_some]

end SpotForecast.Json
