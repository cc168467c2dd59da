import SpotForecast.Proofs.Lags.Table
import SpotForecast.Proofs.Tree.Spelling

/-!
# The names of lag features

A text names a feature if it is `lag_` and at least one digit, and the index is the number that the
digits denote.  Leading zeros do not count: any digits are the number that they denote, filled up to
some width (`padded_valueOf`), so an index has one name for every width (`index?_iff_padded`).  The
name that is written is the one of two digits, or of as many as the index needs, and it is read back
(`index?_name`).

The line of names over a table of features says where each feature stands, and a tree may ask for a
feature by the name in that line (`readField_of_mem_headerLine`).
-/

namespace SpotForecast

open Text

namespace Decimal

variable {c : Char} {d : Nat} {digits : List Char}

theorem exists_digitChar (h : isDigit c = true) : ∃ d < 10, c = d.digitChar := by
  simp only [isDigit, Bool.and_eq_true, decide_eq_true_eq, Char.le_def, UInt32.le_iff_toNat_le] at h
  have hzero : '0'.val.toNat = 48 := rfl
  have hnine : '9'.val.toNat = 57 := rfl
  have hd : c.val.toNat - 48 < 10 := by omega
  refine ⟨c.val.toNat - 48, hd, Char.toNat_inj.mp ?_⟩
  rw [Nat.toNat_digitChar_of_lt_ten hd, Char.toNat]
  omega

theorem valueOf_append_digitChar (hd : d < 10) :
    valueOf (digits ++ [d.digitChar]) = 10 * valueOf digits + d := by
  have hdigit : d.digitChar.toNat - '0'.toNat = d := by
    rw [Nat.toNat_digitChar_of_lt_ten hd]
    exact Nat.add_sub_cancel_left 48 d
  rw [valueOf, Nat.ofDigitChars_append, Nat.ofDigitChars_cons, Nat.ofDigitChars_nil, hdigit]
  rfl

/-- **Leading zeros.**  Digits are the number that they denote, filled up with zeros. -/
theorem padded_valueOf (hne : digits ≠ []) (hdigits : ∀ c ∈ digits, isDigit c = true) :
    padded '0' digits.length (valueOf digits) = digits := by
  induction digits using List.reverseRecOn with
  | nil => exact absurd rfl hne
  | append_singleton front c ih =>
      obtain ⟨d, hd, rfl⟩ := exists_digitChar (hdigits c (by simp))
      rw [valueOf_append_digitChar hd, List.length_append, List.length_singleton]
      rcases front.eq_nil_or_concat with rfl | ⟨init, last, rfl⟩
      · have hvalue : 10 * valueOf [] + d = d := Nat.zero_add d
        rw [hvalue, List.length_nil, padded_one, digitsOf_of_lt hd]
        rfl
      · have hfront := ih (by simp) fun c hc => hdigits c (List.mem_append_left _ hc)
        have hwhole : ∀ v, (10 * v + d) / 10 = v := by omega
        have hlast : ∀ v, (10 * v + d) % 10 = d := by omega
        rw [padded_succ (by simp), hwhole, hlast, hfront]

end Decimal

namespace Lags

variable {text : String} {i width : Nat}

/-- **Names.**  An index has one name for every width to which its digits are filled up. -/
theorem index?_iff_padded : index? text = some i ↔
    i < 2 ^ 64 ∧ ∃ width, text = String.ofList ("lag_".toList ++ Decimal.padded '0' width i) := by
  rw [Tree.index?_eq_some_iff]
  constructor
  · intro h
    obtain ⟨digits, rfl, hdigits⟩ := h
    obtain ⟨hne, hall, hfits, rfl⟩ := Tree.indexOfDigits?_eq_some_iff.mp hdigits
    have hall : ∀ c ∈ digits, Decimal.isDigit c = true := by
      intro c hc
      simpa [Decimal.isDigit] using hall c hc
    exact ⟨hfits, digits.length, by rw [Decimal.padded_valueOf hne hall]⟩
  · intro h
    obtain ⟨hfits, width, rfl⟩ := h
    refine ⟨_, rfl, Tree.indexOfDigits?_eq_some_iff.mpr
      ⟨Decimal.padded_ne_nil width i, ?_, hfits, ?_⟩⟩
    · intro c hc
      simpa [Decimal.isDigit] using Decimal.isDigit_of_mem_padded hc
    · rw [Decimal.valueOf_padded]

/-- The name that is written is read back. -/
theorem index?_name (h : i < 2 ^ 64) : index? (name i) = some i :=
  index?_iff_padded.mpr ⟨h, 2, rfl⟩

theorem name_injective : Function.Injective name := by
  intro i j h
  have hchars : nameChars i = nameChars j := String.ofList_injective h
  have hdigits : Decimal.padded '0' 2 i = Decimal.padded '0' 2 j := List.append_cancel_left hchars
  calc i = Decimal.valueOf (Decimal.padded '0' 2 i) := (Decimal.valueOf_padded 2 i).symm
    _ = Decimal.valueOf (Decimal.padded '0' 2 j) := by rw [hdigits]
    _ = j := Decimal.valueOf_padded 2 j

/-- A tree that names a feature as the line of names does asks for the feature under that name. -/
theorem readField_of_mem_headerLine (hwidth : width ≤ 2 ^ 64) :
    ∃ names, pieces (· == '\t') (LagReport.headerLine width) = "date".toList :: names ∧
      names.length = width ∧ ∀ j field, names[j]? = some field →
        Tree.readField (.string (String.ofList field)) = .ok j := by
  refine ⟨(List.range width).map nameChars, LagReport.pieces_headerLine width, ?_, ?_⟩
  · rw [List.length_map, List.length_range]
  · intro j field hfield
    rw [List.getElem?_map, Option.map_eq_some_iff] at hfield
    obtain ⟨k, hk, rfl⟩ := hfield
    obtain ⟨hj, rfl⟩ := List.getElem?_eq_some_iff.mp hk
    rw [List.length_range] at hj
    have hindex : index? (String.ofList (nameChars j)) = some j := index?_name (by omega)
    rw [List.getElem_range, Tree.readField, hindex]

/-- What the names of features say. -/
structure IndexInvertsName : Prop where
  /-- A text names a feature if it is `lag_` and digits, one at least, whose number has at most 64
  bits. -/
  index?_iff_digits : ∀ text i, index? text = some i ↔
    ∃ digits, text = String.ofList ("lag_".toList ++ digits) ∧ digits ≠ [] ∧
      (∀ c ∈ digits, '0' ≤ c ∧ c ≤ '9') ∧ Decimal.valueOf digits = i ∧ i < 2 ^ 64
  /-- The digits are those of the index, with any number of zeros in front of them. -/
  index?_iff_zeros : ∀ text i, index? text = some i ↔
    i < 2 ^ 64 ∧ ∃ zeros, text =
      String.ofList ("lag_".toList ++ List.replicate zeros '0' ++ Decimal.digitsOf i)
  index?_name : ∀ i < 2 ^ 64, index? (name i) = some i
  name_ne : ∀ i j, i ≠ j → name i ≠ name j
  /-- The first line of a table of features has their names, and a tree that uses one of them asks
  for the feature under it. -/
  table_names : ∀ (rows : List Row) (width : Nat), rows ≠ [] → width ≤ 2 ^ 64 →
    (∀ f ∈ rows, f.values.length = width) →
    ∃ text header lines names, table Layout.standard rows = .ok text ∧
      pieces (· == '\n') text.toList = header :: lines ∧
      pieces (· == '\t') header = "date".toList :: names ∧ names.length = width ∧
      ∀ j field, names[j]? = some field →
        Tree.readField (.string (String.ofList field)) = .ok j

/-- **Names tell features apart.**  A name is read as the index that it was written for, and
nothing but `lag_` and digits is a name. -/
theorem index?_inverts_name : IndexInvertsName where
  index?_iff_digits := by
    intro text i
    rw [Tree.index?_eq_some_iff]
    simp only [Tree.indexOfDigits?_eq_some_iff]
    constructor
    · intro h
      obtain ⟨digits, rfl, hne, hdigits, hfits, rfl⟩ := h
      exact ⟨digits, rfl, hne, hdigits, rfl, hfits⟩
    · intro h
      obtain ⟨digits, rfl, hne, hdigits, rfl, hfits⟩ := h
      exact ⟨digits, rfl, hne, hdigits, hfits, rfl⟩
  index?_iff_zeros := by
    intro text i
    rw [index?_iff_padded]
    refine and_congr_right fun _ => ⟨?_, ?_⟩
    · intro h
      obtain ⟨width, rfl⟩ := h
      exact ⟨width - (Decimal.digitsOf i).length, by rw [List.append_assoc]; rfl⟩
    · intro h
      obtain ⟨zeros, rfl⟩ := h
      refine ⟨zeros + (Decimal.digitsOf i).length, ?_⟩
      rw [Decimal.padded_eq, Nat.add_sub_cancel, List.append_assoc]
  index?_name _ h := Lags.index?_name h
  name_ne _ _ hne := name_injective.ne hne
  table_names := by
    intro rows width hne hwidth hrows
    obtain ⟨text, htext, hlines⟩ := LagReport.table_eq hrows
    obtain ⟨names, hheader, hnames⟩ := readField_of_mem_headerLine hwidth
    rw [if_neg hne] at hlines
    exact ⟨text, _, _, names, htext, hlines, hheader, hnames⟩

end Lags

end SpotForecast
