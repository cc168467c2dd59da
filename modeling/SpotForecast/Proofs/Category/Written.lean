import Mathlib.Data.List.Infix
import Mathlib.Data.Set.Function
import SpotForecast.Category

/-!
# Keys in written form

A text is cut at pairs of underscores, from left to right.  `Cuttable` says which pieces can come
out of that: none of them has a pair of underscores inside, and none but the last one ends with an
underscore, because that one and the first half of the pair behind it would have been cut before.
Joining and cutting are inverse to each other on these pieces (`cut_eq_iff`).

For keys this gives two facts.

* `canonical_of_parse?`: a text that denotes a key is the written form of it.
* `parse?_canonical_iff`: the written form of a key denotes that key exactly if the key is `Plain`.
  The written form of any other key denotes another key or none.

`parse?_canonical_inverse` puts them together: between plain keys and the texts that denote keys,
writing and reading are inverse to each other.
-/

namespace SpotForecast.Category

/-- Pieces that can come out of a cut. -/
def Cuttable : List (List Char) → Prop
  | [] => False
  | [piece] => ¬separator <:+: piece
  | piece :: next :: rest =>
    ¬separator <:+: piece ∧ piece.getLast? ≠ some '_' ∧ Cuttable (next :: rest)

/-- The parts of a key have no pair of underscores, and only the zone may end with one. -/
structure Plain (c : Category) : Prop where
  resourceType_unbroken : ¬separator <:+: c.resourceType.toList
  resourceType_end : c.resourceType.toList.getLast? ≠ some '_'
  description_unbroken : ¬separator <:+: c.description.toList
  description_end : c.description.toList.getLast? ≠ some '_'
  zone_unbroken : ¬separator <:+: c.zone.toList

/-- A pair of underscores is at the start of a text or behind it. -/
theorem separator_infix_cons_iff {c d : Char} {rest : List Char} :
    separator <:+: c :: d :: rest ↔ (c = '_' ∧ d = '_') ∨ separator <:+: d :: rest := by
  rw [separator, List.infix_cons_iff, List.cons_prefix_cons, List.cons_prefix_cons]
  simp [eq_comm]

theorem not_separator_infix_singleton (c : Char) : ¬separator <:+: [c] := by
  intro h
  have hlength := h.length_le
  simp [separator] at hlength

/-- Joining takes the first piece as it is. -/
theorem joinPieces_consFirst (c : Char) (ps : List (List Char)) :
    Text.joinPieces separator (Text.consFirst c ps) = c :: Text.joinPieces separator ps := by
  cases ps with
  | nil => rfl
  | cons p rest =>
      cases rest with
      | nil => rfl
      | cons q rest => rfl

theorem cut_ne_nil (text : List Char) : cut text ≠ [] := by
  fun_cases cut text with
  | case1 => simp
  | case2 c => simp
  | case3 c d rest hpair => simp
  | case4 c d rest hpair => exact Text.consFirst_ne_nil c _

/-- The first piece of a cut is empty only if the text starts with an underscore, and otherwise it
starts as the text does. -/
theorem exists_cut_cons (d : Char) (rest : List Char) :
    ∃ p ps, cut (d :: rest) = p :: ps ∧ ((p = [] ∧ d = '_') ∨ ∃ tail, p = d :: tail) := by
  cases rest with
  | nil => exact ⟨[d], [], rfl, Or.inr ⟨[], rfl⟩⟩
  | cons e rest =>
      by_cases hpair : d = '_' ∧ e = '_'
      · exact ⟨[], cut rest, by rw [cut, if_pos hpair], Or.inl ⟨rfl, hpair.1⟩⟩
      · rw [cut, if_neg hpair]
        cases hcut : cut (e :: rest) with
        | nil => exact absurd hcut (cut_ne_nil _)
        | cons p ps => exact ⟨d :: p, ps, rfl, Or.inr ⟨p, rfl⟩⟩

theorem joinPieces_cut (text : List Char) : Text.joinPieces separator (cut text) = text := by
  fun_induction cut text with
  | case1 => rfl
  | case2 c => rfl
  | case3 c d rest hpair ih =>
      obtain ⟨rfl, rfl⟩ := hpair
      cases hcut : cut rest with
      | nil => exact absurd hcut (cut_ne_nil rest)
      | cons p ps =>
          rw [hcut] at ih
          rw [Text.joinPieces, ih]
          rfl
  | case4 c d rest hpair ih => rw [joinPieces_consFirst, ih]

theorem not_separator_infix_nil : ¬separator <:+: ([] : List Char) := by
  intro h
  have hlength := h.length_le
  simp [separator] at hlength

/-- The first piece of a cut may grow in front if no pair arises there. -/
theorem Cuttable.cons_first {c d : Char} {p : List Char} {ps : List (List Char)}
    (hpair : ¬(c = '_' ∧ d = '_')) (hfirst : (p = [] ∧ d = '_') ∨ ∃ tail, p = d :: tail)
    (h : Cuttable (p :: ps)) : Cuttable ((c :: p) :: ps) := by
  have hunbroken : ¬separator <:+: p → ¬separator <:+: c :: p := by
    intro hp
    rcases hfirst with ⟨rfl, -⟩ | ⟨tail, rfl⟩
    · exact not_separator_infix_singleton c
    · rw [separator_infix_cons_iff]
      exact not_or_intro hpair hp
  have hend : p.getLast? ≠ some '_' → (c :: p).getLast? ≠ some '_' := by
    intro hp
    rcases hfirst with ⟨rfl, rfl⟩ | ⟨tail, rfl⟩
    · simpa using hpair
    · rwa [List.getLast?_cons_cons]
  cases ps with
  | nil => exact hunbroken h
  | cons q rest => exact ⟨hunbroken h.1, hend h.2.1, h.2.2⟩

/-- A cut gives pieces as they should be. -/
theorem cuttable_cut (text : List Char) : Cuttable (cut text) := by
  fun_induction cut text with
  | case1 => exact not_separator_infix_nil
  | case2 c => exact not_separator_infix_singleton c
  | case3 c d rest hpair ih =>
      cases hcut : cut rest with
      | nil => exact absurd hcut (cut_ne_nil rest)
      | cons p ps =>
          rw [hcut] at ih
          exact ⟨not_separator_infix_nil, by simp, ih⟩
  | case4 c d rest hpair ih =>
      obtain ⟨p, ps, hcut, hfirst⟩ := exists_cut_cons d rest
      rw [hcut] at ih ⊢
      exact ih.cons_first hpair hfirst

theorem cut_of_unbroken {text : List Char} (h : ¬separator <:+: text) : cut text = [text] := by
  induction text with
  | nil => rfl
  | cons c rest ih =>
      cases rest with
      | nil => rfl
      | cons d rest =>
          rw [separator_infix_cons_iff, not_or] at h
          rw [cut, if_neg h.1, ih h.2]
          rfl

/-- A piece without a pair of underscores and without one at its end is cut off at the pair behind
it. -/
theorem cut_append_separator {piece : List Char} (h : ¬separator <:+: piece)
    (hend : piece.getLast? ≠ some '_') (rest : List Char) :
    cut (piece ++ separator ++ rest) = piece :: cut rest := by
  induction piece with
  | nil => rfl
  | cons c tail ih =>
      cases tail with
      | nil =>
          have hpair : ¬(c = '_' ∧ '_' = '_') := by simpa using hend
          have htail := ih (by simp [separator]) (by simp)
          rw [List.nil_append] at htail
          simp only [separator, List.cons_append, List.nil_append] at htail ⊢
          rw [cut, if_neg hpair, htail]
          rfl
      | cons d tail =>
          rw [separator_infix_cons_iff, not_or] at h
          rw [List.getLast?_cons_cons] at hend
          have hcut : cut (c :: d :: tail ++ separator ++ rest) =
              Text.consFirst c (cut (d :: tail ++ separator ++ rest)) := by
            simp only [List.cons_append]
            rw [cut, if_neg h.1]
          rw [hcut, ih h.2 hend]
          rfl

/-- Pieces as they should be are cut apart again after they were joined. -/
theorem cut_joinPieces {ps : List (List Char)} (h : Cuttable ps) :
    cut (Text.joinPieces separator ps) = ps := by
  induction ps with
  | nil => exact h.elim
  | cons p rest ih =>
      cases rest with
      | nil => exact cut_of_unbroken h
      | cons q rest =>
          obtain ⟨hp, hend, hrest⟩ := h
          rw [Text.joinPieces, cut_append_separator hp hend, ih hrest]

/-- **Cutting and joining.**  Pieces are the cut of a text exactly if they are as they should be
and give the text when they are joined. -/
theorem cut_eq_iff {text : List Char} {ps : List (List Char)} :
    cut text = ps ↔ Cuttable ps ∧ Text.joinPieces separator ps = text := by
  constructor
  · rintro rfl
    exact ⟨cuttable_cut text, joinPieces_cut text⟩
  · rintro ⟨hps, rfl⟩
    exact cut_joinPieces hps

/-- The parts of a key can come out of a cut exactly if the key is plain. -/
theorem cuttable_parts_iff {c : Category} :
    Cuttable [c.resourceType.toList, c.description.toList, c.zone.toList] ↔ c.Plain := by
  constructor
  · rintro ⟨htype, htypeEnd, hdescription, hdescriptionEnd, hzone⟩
    exact ⟨htype, htypeEnd, hdescription, hdescriptionEnd, hzone⟩
  · rintro ⟨htype, htypeEnd, hdescription, hdescriptionEnd, hzone⟩
    exact ⟨htype, htypeEnd, hdescription, hdescriptionEnd, hzone⟩

theorem parse?_eq_some_iff_cut {text : String} {c : Category} :
    parse? text = some c ↔
      cut text.toList = [c.resourceType.toList, c.description.toList, c.zone.toList] := by
  constructor
  · intro h
    rw [parse?] at h
    split at h
    · rename_i resourceType description zone hcut
      cases h
      simpa using hcut
    · cases h
  · intro h
    simp only [parse?, h, String.ofList_toList]

/-- **Reading keys.**  A text denotes a key exactly if the key is plain and the text is its written
form. -/
theorem parse?_eq_some_iff_plain {text : String} {c : Category} :
    parse? text = some c ↔ c.Plain ∧ c.canonical = text := by
  have hwritten : c.canonical = text ↔ c.canonicalChars = text.toList := by
    rw [canonical, ← String.toList_inj, String.toList_ofList]
  rw [parse?_eq_some_iff_cut, cut_eq_iff, cuttable_parts_iff, hwritten, canonicalChars]

theorem canonical_of_parse? {text : String} {c : Category} (h : parse? text = some c) :
    c.canonical = text :=
  (parse?_eq_some_iff_plain.mp h).2

theorem parse?_canonical_iff {c : Category} : parse? c.canonical = some c ↔ c.Plain := by
  rw [parse?_eq_some_iff_plain, and_iff_left rfl]

/-- Plain keys are told apart by their written forms, and these are all the texts that denote
keys. -/
theorem bijOn_canonical :
    Set.BijOn canonical {c | c.Plain} {text | ∃ c, parse? text = some c} := by
  refine ⟨?_, ?_, ?_⟩
  · intro c hc
    exact ⟨c, parse?_canonical_iff.mpr hc⟩
  · intro c hc c' hc' hsame
    have hread := parse?_canonical_iff.mpr hc
    rw [hsame, parse?_canonical_iff.mpr hc'] at hread
    exact (Option.some.inj hread).symm
  · rintro text ⟨c, hc⟩
    obtain ⟨hplain, hwritten⟩ := parse?_eq_some_iff_plain.mp hc
    exact ⟨c, hplain, hwritten⟩

/-- **Keys and their written forms.**  A text denotes a key exactly if it is the written form of
the key and the key is plain.  So writing undoes reading on every text that denotes a key, reading
undoes writing on the plain keys and on no others, and no two plain keys share a written form. -/
theorem parse?_canonical_inverse :
    (∀ (c : Category) (text : String),
        parse? text = some c ↔ c.canonical = text ∧ c.Plain) ∧
      (∀ (text : String) (c : Category), parse? text = some c → c.canonical = text) ∧
      (∀ c : Category, parse? c.canonical = some c ↔ c.Plain) ∧
      Set.BijOn canonical {c | c.Plain} {text | ∃ c, parse? text = some c} := by
  refine ⟨fun c text => ?_, fun text c => canonical_of_parse?, fun c => parse?_canonical_iff,
    bijOn_canonical⟩
  rw [parse?_eq_some_iff_plain, and_comm]

-- underscores in front and an empty part do no harm, and the zone may end with one
example : parse? "_a____b_" = some ⟨"_a", "", "b_"⟩ := by decide +kernel

end SpotForecast.Category
