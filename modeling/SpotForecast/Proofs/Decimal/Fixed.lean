import Mathlib
import SpotForecast.Decimal.Fixed

/-!
# What a double with a fixed number of places shows

`IsFixed places x text` says what the text of a double is without looking at its bits: by the parts
of the value, as the arithmetic of doubles has them.  A finite value shows the nearest multiple of
`10 ^ -places`, and of two that are as near the even one (`IsNearest`), with exactly `places` digits
after the point.

* `padded_succ_eq` cuts a run of digits in front of the last `places` of them.
* `isNearest_roundDiv` is the rounding, in one step from the exact value.
* `isFixed_fixed` puts these together for every double.
-/

namespace SpotForecast.Decimal

open Float.Model (UnpackedFloat Format)
open Float.Model.UnpackedFloat

variable {c : Char} {n places width num den : Nat} {v : ℚ} {x : Float}

/-! ### Digits -/

theorem isDigit_iff : isDigit c = true ↔ c.isDigit = true := by
  simp only [isDigit, Char.isDigit, Bool.and_eq_true, decide_eq_true_eq]
  rfl

theorem isDigit_of_mem_digitsOf (h : c ∈ digitsOf n) : isDigit c = true :=
  isDigit_iff.mpr (Nat.isDigit_of_mem_toDigits (by decide) (by decide) h)

/-- The fill stands in front of the digits. -/
theorem padded_eq (fill : Char) (width n : Nat) :
    padded fill width n = List.replicate (width - (digitsOf n).length) fill ++ digitsOf n :=
  rfl

theorem isDigit_of_mem_padded (h : c ∈ padded '0' width n) : isDigit c = true := by
  rw [padded_eq, List.mem_append, List.mem_replicate] at h
  rcases h with ⟨-, rfl⟩ | h
  · rfl
  · exact isDigit_of_mem_digitsOf h

/-- Zeros in front of a number do not change it. -/
@[simp] theorem valueOf_padded (width n : Nat) : valueOf (padded '0' width n) = n := by
  rw [padded_eq, valueOf, Nat.ofDigitChars_append, Nat.ofDigitChars_replicate_zero]
  exact valueOf_digitsOf n

theorem length_digitsOf_pos (n : Nat) : 0 < (digitsOf n).length :=
  List.length_pos_of_ne_nil Nat.toDigits_ne_nil

theorem padded_ne_nil (width n : Nat) : padded '0' width n ≠ [] := by
  intro h
  have hlength := congrArg List.length h
  have hpos := length_digitsOf_pos n
  rw [padded, List.length_leftpad, List.length_nil] at hlength
  omega

theorem digitsOf_of_lt (h : n < 10) : digitsOf n = [n.digitChar] :=
  Nat.toDigits_of_lt_base h

theorem digitsOf_of_le (h : 10 ≤ n) : digitsOf n = digitsOf (n / 10) ++ [(n % 10).digitChar] :=
  Nat.toDigits_of_base_le (by decide) h

/-- There is no superfluous zero. -/
theorem digitsOf_ne_zero_cons (hn : 0 < n) (rest : List Char) : digitsOf n ≠ '0' :: rest := by
  induction n using Nat.strongRecOn generalizing rest with
  | ind n ih =>
      rcases Nat.lt_or_ge n 10 with hlt | hge
      · have hdigits : ∀ d < 10, 0 < d → d.digitChar ≠ '0' := by decide
        intro h
        rw [digitsOf_of_lt hlt] at h
        exact hdigits n hlt hn (List.cons.inj h).1
      · intro h
        obtain ⟨c, front, hfront⟩ := List.exists_cons_of_length_pos (length_digitsOf_pos (n / 10))
        rw [digitsOf_of_le hge, hfront] at h
        have hzero : c = '0' := (List.cons.inj h).1
        subst hzero
        exact ih (n / 10) (by omega) (by omega) front hfront

theorem padded_one (n : Nat) : padded '0' 1 n = digitsOf n := by
  have hlength := length_digitsOf_pos n
  have hzeros : 1 - (digitsOf n).length = 0 := by omega
  rw [padded_eq, hzeros]
  rfl

/-- The last digit stands behind the digits of the tenth part. -/
theorem padded_succ (hwidth : 0 < width) (n : Nat) :
    padded '0' (width + 1) n = padded '0' width (n / 10) ++ [(n % 10).digitChar] := by
  rcases Nat.lt_or_ge n 10 with hlt | hge
  · obtain ⟨zeros, rfl⟩ : ∃ zeros, width = zeros + 1 := ⟨width - 1, by omega⟩
    have htenth : digitsOf (n / 10) = ['0'] := by
      rw [Nat.div_eq_of_lt hlt, digitsOf_of_lt (by decide)]
      rfl
    rw [Nat.mod_eq_of_lt hlt, padded_eq, padded_eq, digitsOf_of_lt hlt, htenth]
    simp [List.replicate_succ']
  · have hzeros : width + 1 - (digitsOf n).length = width - (digitsOf (n / 10)).length := by
      rw [digitsOf_of_le hge, List.length_append, List.length_singleton, Nat.add_sub_add_right]
    rw [padded_eq, padded_eq, hzeros, digitsOf_of_le hge, List.append_assoc]

/-- A number below a power of ten is filled up to the digits of that power. -/
theorem length_padded (h : n < 10 ^ places) (hplaces : 0 < places) :
    (padded '0' places n).length = places := by
  rw [padded, List.length_leftpad]
  exact Nat.max_eq_left ((Nat.length_toDigits_le_iff (by decide) hplaces).mpr h)

/-- **The last digits.**  In front of them stand those of the whole part. -/
theorem padded_succ_eq (hplaces : 0 < places) (n : Nat) :
    padded '0' (places + 1) n =
      digitsOf (n / 10 ^ places) ++ padded '0' places (n % 10 ^ places) := by
  induction places generalizing n with
  | zero => cases hplaces
  | succ p ih =>
      rcases Nat.eq_zero_or_pos p with rfl | hp
      · calc padded '0' 2 n
            = padded '0' 1 (n / 10) ++ [(n % 10).digitChar] := padded_succ (by decide) n
          _ = digitsOf (n / 10) ++ digitsOf (n % 10) := by
            rw [padded_one, digitsOf_of_lt (Nat.mod_lt n (by decide))]
          _ = digitsOf (n / 10 ^ 1) ++ padded '0' 1 (n % 10 ^ 1) := by rw [padded_one, Nat.pow_one]
      · have hpow : 10 ^ (p + 1) = 10 * 10 ^ p := by rw [Nat.pow_succ, Nat.mul_comm]
        have hwhole : n / 10 / 10 ^ p = n / 10 ^ (p + 1) := by rw [Nat.div_div_eq_div_mul, hpow]
        have htenth : n % 10 ^ (p + 1) / 10 = n / 10 % 10 ^ p := by
          rw [hpow, Nat.mod_mul_right_div_self]
        have hlast : n % 10 ^ (p + 1) % 10 = n % 10 := by
          rw [hpow, Nat.mod_mul_right_mod]
        calc padded '0' (p + 1 + 1) n
            = padded '0' (p + 1) (n / 10) ++ [(n % 10).digitChar] :=
              padded_succ (Nat.succ_pos p) n
          _ = digitsOf (n / 10 ^ (p + 1)) ++
                (padded '0' p (n / 10 % 10 ^ p) ++ [(n % 10).digitChar]) := by
            rw [ih hp (n / 10), hwhole, List.append_assoc]
          _ = digitsOf (n / 10 ^ (p + 1)) ++ padded '0' (p + 1) (n % 10 ^ (p + 1)) := by
            rw [padded_succ hp, htenth, hlast]

/-- A number of units of which `10 ^ places` make a whole, with that many digits after the point. -/
def pointed (places units : Nat) : List Char :=
  digitsOf (units / 10 ^ places) ++ '.' :: padded '0' places (units % 10 ^ places)

/-- Cutting off the last digits leaves those of the whole part. -/
theorem withPoint_padded (hplaces : 0 < places) (n : Nat) :
    withPoint places (padded '0' (places + 1) n) = pointed places n := by
  have hlength := length_padded (Nat.mod_lt n (Nat.pow_pos (by decide))) hplaces
  rw [withPoint, if_neg (by omega), padded_succ_eq hplaces, pointed]
  simp only [List.length_append, hlength, Nat.add_sub_cancel, List.take_left, List.drop_left]

/-! ### Rounding -/

/-- A natural number is nearest to a value, and of two that are as near it is the even one. -/
def IsNearest (v : ℚ) (n : Nat) : Prop :=
  |(n : ℚ) - v| ≤ 1 / 2 ∧ (|(n : ℚ) - v| = 1 / 2 → n % 2 = 0)

theorem isNearest_below {f : ℚ} (h0 : 0 ≤ f) (hf : f ≤ 1 / 2) (heven : f = 1 / 2 → n % 2 = 0) :
    IsNearest (n + f) n := by
  have hdistance : |(n : ℚ) - (n + f)| = f := by
    rw [sub_add_cancel_left, abs_neg, abs_of_nonneg h0]
  rw [IsNearest, hdistance]
  exact ⟨hf, heven⟩

theorem isNearest_above {f : ℚ} (h1 : f ≤ 1) (hf : 1 / 2 ≤ f)
    (heven : f = 1 / 2 → (n + 1) % 2 = 0) : IsNearest (n + f) (n + 1) := by
  have hdistance : |((n + 1 : Nat) : ℚ) - (n + f)| = 1 - f := by
    rw [Nat.cast_succ, add_sub_add_left_eq_sub, abs_of_nonneg (sub_nonneg.mpr h1)]
  rw [IsNearest, hdistance]
  exact ⟨by linarith, fun h => heven (by linarith)⟩

/-- What a quotient has beyond its whole part, and where that lies between zero and one. -/
theorem exists_fraction (num : Nat) (hden : 0 < den) :
    ∃ f : ℚ, (num : ℚ) / den = (num / den : Nat) + f ∧ 0 ≤ f ∧ f < 1 ∧
      (2 * (num % den) < den ↔ f < 1 / 2) ∧ (den < 2 * (num % den) ↔ 1 / 2 < f) := by
  have hden' : (0 : ℚ) < den := by exact_mod_cast hden
  obtain ⟨f, hf⟩ : ∃ f : ℚ, ((num % den : Nat) : ℚ) = f * den :=
    ⟨(num % den : Nat) / den, by field_simp⟩
  have htwice : ((2 * (num % den) : Nat) : ℚ) = 2 * f * den := by
    rw [Nat.cast_mul, hf, Nat.cast_ofNat, mul_assoc]
  refine ⟨f, ?_, ?_, ?_, ?_, ?_⟩
  · have hdivision : (num : ℚ) = den * (num / den : Nat) + (num % den : Nat) := by
      exact_mod_cast (Nat.div_add_mod num den).symm
    rw [div_eq_iff hden'.ne', hdivision, hf]
    linarith
  · have hrest : (0 : ℚ) ≤ f * den := by rw [← hf]; positivity
    exact nonneg_of_mul_nonneg_left hrest hden'
  · have hrest : f * den < 1 * den := by
      rw [← hf, one_mul]
      exact_mod_cast Nat.mod_lt num hden
    exact lt_of_mul_lt_mul_right hrest hden'.le
  · rw [← @Nat.cast_lt ℚ, htwice, mul_lt_iff_lt_one_left hden']
    constructor <;> intro h <;> linarith
  · rw [← @Nat.cast_lt ℚ, htwice, lt_mul_iff_one_lt_left hden']
    constructor <;> intro h <;> linarith

/-- What is left of a division decides between the quotient and the next number. -/
theorem isNearest_roundDiv (num : Nat) (hden : 0 < den) :
    IsNearest ((num : ℚ) / den) (roundDiv num den) := by
  obtain ⟨f, hvalue, h0, h1, hlow, hhigh⟩ := exists_fraction num hden
  rw [hvalue, roundDiv]
  simp only [hlow, hhigh]
  split
  · rename_i hf
    exact isNearest_below h0 hf.le fun h => absurd h hf.ne
  · rename_i hge
    split
    · rename_i hf
      exact isNearest_above h1.le hf.le fun h => absurd h hf.ne'
    · rename_i hle
      split
      · rename_i heven
        exact isNearest_below h0 (not_lt.mp hle) fun _ => heven
      · rename_i hodd
        exact isNearest_above h1.le (not_lt.mp hge) fun _ => by omega

/-! ### The parts of a double -/

/-- The sign of a double, by its sign bit. -/
def signOf (x : Float) : UnpackedFloat.Sign :=
  if isNegative x then .negative else .positive

theorem toNat_unpackExponent (b : UInt64) :
    (@unpackExponent Format.binary64 b.toBitVec).toNat =
      ((b >>> 52) &&& 0x7FF).toNat := by
  rw [unpackExponent, BitVec.toNat_cast, BitVec.extractLsb_toNat, UInt64.toNat_and,
    UInt64.toNat_shiftRight]
  exact (Nat.and_two_pow_sub_one_eq_mod _ 11).symm

theorem toNat_unpackMantissa (b : UInt64) :
    (@unpackMantissa Format.binary64 b.toBitVec).toNat =
      (b &&& 0xFFFFFFFFFFFFF).toNat := by
  rw [unpackMantissa, BitVec.toNat_cast, BitVec.extractLsb_toNat, UInt64.toNat_and]
  exact (Nat.and_two_pow_sub_one_eq_mod _ 52).symm

theorem ofBitVec_unpackSign (x : Float) :
    UnpackedFloat.Sign.ofBitVec (@unpackSign Format.binary64 x.toBits.toBitVec) =
      signOf x := by
  have hlt : x.toBits.toNat / 2 ^ 63 < 2 := by
    have hsize := x.toBits.toNat_lt
    omega
  have hbit : (@unpackSign Format.binary64 x.toBits.toBitVec).toNat =
      x.toBits.toNat / 2 ^ 63 := by
    rw [unpackSign, BitVec.toNat_cast, BitVec.extractLsb_toNat, Nat.shiftRight_eq_div_pow]
    exact Nat.mod_eq_of_lt hlt
  have hnegative : isNegative x = true ↔ x.toBits.toNat / 2 ^ 63 = 1 := by
    rw [isNegative, beq_iff_eq, ← UInt64.toNat_inj, UInt64.toNat_shiftRight,
      Nat.shiftRight_eq_div_pow]
    rfl
  have hpositive : @unpackSign Format.binary64 x.toBits.toBitVec = 0#1 ↔
      ¬isNegative x = true := by
    rw [hnegative, ← BitVec.toNat_inj, hbit, BitVec.toNat_zero]
    omega
  rw [UnpackedFloat.Sign.ofBitVec, signOf]
  cases hsign : isNegative x <;> simp [hpositive, hsign]

/-- The first digit of a mantissa that is not stored. -/
theorem toNat_one_append (m : BitVec 52) : (1#1 ++ m).toNat = m.toNat + 0x10000000000000 := by
  rw [BitVec.toNat_append, ← Nat.shiftLeft_add_eq_or_of_lt m.isLt, Nat.add_comm]
  rfl

/-- The magnitude, by the fields that the arithmetic of doubles reads. -/
theorem magnitude_eq (x : Float) :
    magnitude x =
      if @unpackExponent Format.binary64 x.toBits.toBitVec = 0#11 then
        ⟨(@unpackMantissa Format.binary64 x.toBits.toBitVec).toNat, -1074⟩
      else
        ⟨(1#1 ++ @unpackMantissa Format.binary64 x.toBits.toBitVec).toNat,
          (@unpackExponent Format.binary64 x.toBits.toBitVec).toNat - 1075⟩ := by
  have hfield : ((x.toBits >>> 52) &&& 0x7FF).toNat = 0 ↔
      @unpackExponent Format.binary64 x.toBits.toBitVec = 0#11 := by
    rw [← toNat_unpackExponent, ← BitVec.toNat_inj, BitVec.toNat_zero]
  rw [magnitude, toNat_one_append, toNat_unpackExponent, toNat_unpackMantissa]
  simp only [hfield]

/-- **Parts.**  A double that is a number has the sign and the magnitude that are read from its
bits. -/
theorem unpack_cases (x : Float) :
    x.toModel.unpack = .notANumber ∨
      x.toModel.unpack = .infinity (signOf x) ∨
      (x.toModel.unpack = .zero (signOf x) ∧ (magnitude x).mantissa = 0) ∨
      ∃ hm, x.toModel.unpack =
        .finite (signOf x) (magnitude x).mantissa (magnitude x).exponent hm := by
  have hunpack : x.toModel.unpack = unpack .binary64 x.toBits.toBitVec := rfl
  rw [hunpack, unpack]
  simp only [ofBitVec_unpackSign]
  split
  · split
    · exact .inr (.inl rfl)
    · exact .inl rfl
  · split
    · rename_i hexponent
      have hmagnitude := magnitude_eq x
      rw [if_pos hexponent] at hmagnitude
      split
      · rename_i hmantissa
        refine .inr (.inr (.inl ⟨rfl, ?_⟩))
        rw [hmagnitude]
        exact congrArg BitVec.toNat hmantissa
      · rename_i hmantissa
        refine .inr (.inr (.inr ?_))
        rw [hmagnitude, hexponent]
        exact ⟨Nat.pos_of_ne_zero fun h => hmantissa (BitVec.toNat_inj.mp h), rfl⟩
    · rename_i hexponent
      have hmagnitude := magnitude_eq x
      rw [if_neg hexponent] at hmagnitude
      refine .inr (.inr (.inr ?_))
      rw [hmagnitude]
      exact ⟨toNat_one_append _ ▸ Nat.succ_pos _, rfl⟩

/-! ### Doubles -/

/-- The mark that a sign is shown by. -/
def signText : UnpackedFloat.Sign → List Char
  | .negative => ['-']
  | .positive => []

/-- The text of a double with a number of digits after the point. -/
inductive IsFixed (places : Nat) : UnpackedFloat → List Char → Prop where
  | notANumber : IsFixed places .notANumber "NaN".toList
  | infinity (s : UnpackedFloat.Sign) : IsFixed places (.infinity s) (signText s ++ "inf".toList)
  | zero (s : UnpackedFloat.Sign) : IsFixed places (.zero s) (signText s ++ pointed places 0)
  /-- A finite value is rounded to the nearest number of units. -/
  | finite {s : UnpackedFloat.Sign} {m units : Nat} {e : Int} {hm : 0 < m}
      (h : IsNearest (m * 2 ^ e * 10 ^ places) units) :
      IsFixed places (.finite s m e hm) (signText s ++ pointed places units)

/-- A magnitude is the quotient of its numerator and its denominator. -/
theorem Magnitude.numerator_div_denominator (m : Magnitude) :
    (m.numerator : ℚ) / m.denominator = m.mantissa * 2 ^ m.exponent := by
  obtain ⟨mantissa, exponent⟩ := m
  obtain ⟨k, rfl | rfl⟩ := exponent.eq_nat_or_neg
  · simp [numerator, denominator]
  · simp [numerator, denominator, div_eq_mul_inv]

theorem Magnitude.denominator_pos (m : Magnitude) : 0 < m.denominator :=
  Nat.pow_pos (by decide)

/-- The units that are shown are the nearest to the value. -/
theorem isNearest_units (m : Magnitude) (places : Nat) :
    IsNearest (m.mantissa * 2 ^ m.exponent * 10 ^ places)
      (roundDiv (m.numerator * Nat.pow 10 places) m.denominator) := by
  have hten : ((Nat.pow 10 places : Nat) : ℚ) = 10 ^ places := by
    rw [Nat.pow_eq, Nat.cast_pow, Nat.cast_ofNat]
  have hvalue : ((m.numerator * Nat.pow 10 places : Nat) : ℚ) / m.denominator =
      m.mantissa * 2 ^ m.exponent * 10 ^ places := by
    rw [← m.numerator_div_denominator, Nat.cast_mul, hten, div_mul_eq_mul_div]
  rw [← hvalue]
  exact isNearest_roundDiv _ m.denominator_pos

theorem roundDiv_zero (den : Nat) : roundDiv 0 den = 0 := by
  simp [roundDiv]

/-- **Fixed places.**  Every double is shown as it has to be. -/
theorem isFixed_fixed (hplaces : 0 < places) (x : Float) :
    IsFixed places x.toModel.unpack (fixed places x) := by
  have hsign : (if isNegative x then ['-'] else []) = signText (signOf x) := by
    rw [signOf]
    cases isNegative x <;> rfl
  have hnan : x.isNaN = x.toModel.unpack.isNaN := rfl
  have hinf : x.isInf = x.toModel.unpack.isInf := rfl
  rw [fixed, hnan, hinf, hsign]
  simp only [withPoint_padded hplaces]
  rcases unpack_cases x with hx | hx | ⟨hx, hzero⟩ | ⟨hm, hx⟩ <;> rw [hx]
  · exact .notANumber
  · exact .infinity _
  · have hunits : (magnitude x).numerator * Nat.pow 10 places = 0 := by
      rw [Magnitude.numerator, hzero, Nat.zero_mul, Nat.zero_mul]
    rw [hunits, roundDiv_zero]
    exact .zero _
  · exact .finite (isNearest_units _ places)

end SpotForecast.Decimal
