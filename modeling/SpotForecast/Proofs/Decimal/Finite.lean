import Mathlib
import SpotForecast.Json.Value

/-!
# Integers as doubles

An integer of 64 bits has a finite double (`isFinite_ofInt`), so no number that a document can hold
is lost when it is taken as a double (`Json.Number.toFloat?_of_fits`).

A double is made by rounding to a mantissa of 53 binary digits and a power of two, and is infinite
only if the exponent of that power is too large.  `Below k` bounds the exponent.  Rounding raises
it by at most twice the number of digits of the mantissa (`below_roundWithAccuracy`), for a value
of 64 bits to 300 at most, and packing the parts of a double loses nothing below 970
(`below_unpack_pack`).
-/

namespace SpotForecast.Decimal

open Float.Model (UnpackedFloat Format totalExponent)
open Float.Model.UnpackedFloat

/-- Zero, or finite with a power of two whose exponent is at most `k`. -/
inductive Below (k : Int) : UnpackedFloat → Prop where
  | zero (s : UnpackedFloat.Sign) : Below k (.zero s)
  | finite {s : UnpackedFloat.Sign} {m : Nat} {e : Int} {hm : 0 < m} (h : e ≤ k) :
      Below k (.finite s m e hm)

variable {j k e e' : Int} {m m' n L : Nat} {s s' : UnpackedFloat.Sign} {f : UnpackedFloat}
  {b c : BitVec Format.binary64.numBits}

theorem Below.mono (h : Below j f) (hjk : j ≤ k) : Below k f := by
  cases h with
  | zero s => exact .zero s
  | finite h => exact .finite (Int.le_trans h hjk)

theorem Below.isFinite (h : Below k f) : f.isFinite = true := by
  cases h with
  | zero | finite => rfl

theorem Below.neg (h : Below k f) : Below k f.neg := by
  cases h with
  | zero => exact .zero _
  | finite h => exact .finite h

/-! ### Binary digits -/

theorem log2_le_of_lt (h : m < 2 ^ (L + 1)) : m.log2 ≤ L := by
  rcases Nat.eq_zero_or_pos m with rfl | hm
  · exact Nat.zero_le L
  · exact Nat.le_of_lt_succ ((Nat.log2_lt (Nat.ne_of_gt hm)).mpr h)

theorem lt_two_pow_of_log2_le (h : m.log2 ≤ L) : m < 2 ^ (L + 1) :=
  Nat.lt_of_lt_of_le Nat.lt_log2_self (Nat.pow_le_pow_right (by decide) (by omega))

/-- One more than a number has at most one binary digit more. -/
theorem log2_le_of_le_succ (hm : m.log2 ≤ L) (h : n ≤ m + 1) : n.log2 ≤ L + 1 := by
  refine log2_le_of_lt ?_
  have hlt : m < 2 ^ (L + 1) := lt_two_pow_of_log2_le hm
  rw [Nat.pow_succ]
  omega

/-! ### Rounding -/

/-- Dropping digits makes a mantissa no greater. -/
theorem mantissa_shiftRight_le (count : Nat) (em : ExtendedMantissa) :
    (em >>> count).mantissa ≤ em.mantissa := by
  induction count with
  | zero => exact Nat.le_refl _
  | succ count ih => exact Nat.le_trans (Nat.div_le_self _ 2) ih

/-- Rounding to the nearest adds at most one. -/
theorem roundedMantissa_le (em : ExtendedMantissa) : em.roundedMantissa ≤ em.mantissa + 1 := by
  obtain ⟨m, r, s⟩ := em
  cases r <;> cases s <;>
    simp only [ExtendedMantissa.roundedMantissa, ExtendedMantissa.accuracy,
      Accuracy.roundToNearestEven] <;> omega

theorem below_zero_or_finite (h : e ≤ k) :
    Below k (if hm : m = 0 then .zero s else .finite s m e (Nat.pos_of_ne_zero hm)) := by
  by_cases hm : m = 0
  · rw [dif_pos hm]
    exact .zero s
  · rw [dif_neg hm]
    exact .finite h

/-- **Rounding.**  The exponent grows with the digits that are dropped, once before rounding and
once after it. -/
theorem below_roundWithAccuracy (hm : m.log2 ≤ L) (he : e ≤ k) (hk : 0 ≤ k) :
    Below (k + 2 * L + 2) (roundWithAccuracy .binary64 s m e .exact) := by
  refine below_zero_or_finite ?_
  set t := Format.binary64.targetExponent (totalExponent m e) with ht
  set em := ExtendedMantissa.ofMantissaAndAccuracy m .exact >>> (t - e).toNat with hem
  have hdropped : em.mantissa ≤ m := mantissa_shiftRight_le _ _
  have hrounded : em.roundedMantissa.log2 ≤ L + 1 :=
    log2_le_of_le_succ hm (Nat.le_trans (roundedMantissa_le em) (Nat.succ_le_succ hdropped))
  change e + (t - e).toNat + (Format.binary64.targetExponent
    (totalExponent em.roundedMantissa (e + (t - e).toNat)) - (e + (t - e).toNat)).toNat ≤ _
  simp only [Format.targetExponent, totalExponent, Format.minExponent, Format.mantissaBits] at ht ⊢
  omega

theorem below_mul_finite {hm : 0 < m} {hm' : 0 < m'} (hlog : (m * m').log2 ≤ L)
    (he : e + e' ≤ k) (hk : 0 ≤ k) :
    Below (k + 2 * L + 2) (mul .binary64 (.finite s m e hm) (.finite s' m' e' hm')) :=
  below_roundWithAccuracy hlog he hk

/-- A value of at most 65 digits is moved up to 53 digits before it is rounded. -/
theorem below_round (h : m.log2 ≤ 64) : Below 300 (UnpackedFloat.round .binary64 s m 0) := by
  set shift := (0 - Format.binary64.targetExponent (totalExponent m 0)).toNat with hshift
  have hle : shift ≤ 52 := by
    simp only [Format.targetExponent, totalExponent, Format.minExponent,
      Format.mantissaBits] at hshift
    omega
  have hlog : (m <<< shift).log2 ≤ 117 := log2_le_of_lt (by
    rw [Nat.shiftLeft_eq]
    calc m * 2 ^ shift < 2 ^ (64 + 1) * 2 ^ 53 :=
          Nat.mul_lt_mul'' (lt_two_pow_of_log2_le h) (Nat.pow_lt_pow_right (by decide) (by omega))
      _ = 2 ^ (117 + 1) := by norm_num)
  change Below 300 (roundWithAccuracy .binary64 s (m <<< shift) (0 - shift) .exact)
  exact (below_roundWithAccuracy hlog (by omega : (0 - shift : Int) ≤ 0) (le_refl _)).mono
    (by omega)

theorem below_ofNat (h : n.log2 ≤ 64) : Below 300 (UnpackedFloat.ofNat .binary64 n) := by
  rw [UnpackedFloat.ofNat, UnpackedFloat.ofInt, UnpackedFloat.normalize]
  split
  · rename_i hlt
    rw [Int.compare_eq_lt] at hlt
    omega
  · exact .zero _
  · exact below_round h

theorem below_ofScientific (h : n < 2 ^ 64) : Below 300 (ofScientific .binary64 n 0) := by
  rw [ofScientific]
  split
  · exact .zero _
  · have hpow : (2 : Int) ^ Format.binary64.exponentBits = 2048 := rfl
    rw [if_neg (by decide), if_neg (by omega), if_pos (by decide)]
    have hlog : (n <<< Format.binary64.mantissaBits * 10 ^ Int.toNat 0).log2 ≤ 116 :=
      log2_le_of_lt (by
        rw [Nat.shiftLeft_eq]
        change n * 2 ^ 53 * 1 < 2 ^ 117
        omega)
    refine (below_mul_finite hlog ?_ (le_refl _)).mono (by norm_num)
    decide

/-! ### Packing -/

/-- The bits of a double bound its exponent, unless they stand for no finite number. -/
theorem below_unpack (h : unpackExponent b ≠ -1#_) :
    Below ((unpackExponent b).toNat - 1074) (unpack .binary64 b) := by
  rw [unpack]
  simp only [if_neg h]
  split
  · split
    · exact .zero _
    · refine .finite ?_
      change ((unpackExponent b).toNat : Int) - 1075 + 1 ≤ _
      omega
  · refine .finite ?_
    change ((unpackExponent b).toNat : Int) - 1075 ≤ _
    omega

/-- An exponent that is not too large is kept in the bits. -/
theorem unpackExponent_pack (h : Below k f) (hk : k ≤ 970) :
    unpackExponent (pack .binary64 f) ≠ -1#_ ∧
      ((unpackExponent (pack .binary64 f)).toNat : Int) ≤ max 0 (k + 1075) := by
  cases h with
  | zero s =>
      simp only [pack, packedZero, unpackExponent_packComponents]
      exact ⟨by decide, by simp⟩
  | @finite s m e hm h =>
      have hbias : (e + Format.binary64.exponentBias +
          Format.binary64.mantissaBitsWithoutImplicit).toNat = (e + 1075).toNat := by
        rw [Int.add_assoc]
        rfl
      have hroom : ¬2 ^ 11 ≤ (e + 1075).toNat + 1 := by omega
      rw [pack, hbias, if_neg hroom]
      split
      · have hfield : (BitVec.ofNat 11 (e + 1075).toNat).toNat = (e + 1075).toNat := by
          rw [BitVec.toNat_ofNat]
          omega
        rw [unpackExponent_packComponents, hfield]
        refine ⟨fun hones => ?_, by omega⟩
        have hall := congrArg BitVec.toNat hones
        rw [hfield] at hall
        simp at hall
        omega
      · rw [unpackExponent_packComponents]
        exact ⟨by decide, by simp⟩

theorem below_unpack_pack (h : Below k f) (h0 : 0 ≤ k) (hk : k ≤ 970) :
    Below (k + 1) (unpack .binary64 (pack .binary64 f)) := by
  obtain ⟨hne, hle⟩ := unpackExponent_pack h hk
  refine (below_unpack hne).mono ?_
  omega

theorem log2_unpack {hm : 0 < m} (h : unpack .binary64 b = .finite s m e hm) : m.log2 ≤ 52 := by
  refine log2_le_of_lt ?_
  rw [unpack] at h
  split at h
  · split at h <;> cases h
  · split at h
    · split at h
      · cases h
      · cases h
        exact Nat.lt_trans (unpackMantissa b).isLt (by decide)
    · cases h
      exact (1#1 ++ unpackMantissa b).isLt

/-- A product of doubles has the sum of their exponents and the digits of two mantissas. -/
theorem below_mul (hb : Below j (unpack .binary64 b)) (hc : Below k (unpack .binary64 c))
    (hjk : 0 ≤ j + k) :
    Below (j + k + 212) (mul .binary64 (unpack .binary64 b) (unpack .binary64 c)) := by
  generalize hx : unpack .binary64 b = x at hb
  generalize hy : unpack .binary64 c = y at hc
  cases hb with
  | zero s =>
      cases hc with
      | zero | finite => exact .zero _
  | @finite s m e hm he =>
      cases hc with
      | zero => exact .zero _
      | @finite s' m' e' hm' he' =>
          have hlog : (m * m').log2 ≤ 105 := log2_le_of_lt (by
            have hlt : m < 2 ^ 53 := lt_two_pow_of_log2_le (log2_unpack hx)
            have hlt' : m' < 2 ^ 53 := lt_two_pow_of_log2_le (log2_unpack hy)
            calc m * m' < 2 ^ 53 * 2 ^ 53 := Nat.mul_lt_mul'' hlt hlt'
              _ = 2 ^ (105 + 1) := by norm_num)
          refine (below_mul_finite hlog (Int.add_le_add he he') hjk).mono ?_
          omega

/-! ### Doubles -/

/-- The double of a natural number of 64 bits, found as a product with one or without. -/
theorem below_unpack_ofNat (h : n < 2 ^ 64) : Below 600 (Float.ofNat n).toModel.unpack := by
  change Below 600 (Float.ofScientific n false 0).toModel.unpack
  rw [Float.ofScientific]
  split
  · have hx : Below 301 (unpack .binary64 n.toUInt64.toFloat.toModel.toBits.toBitVec) := by
      have hlog : n.log2 ≤ 64 := log2_le_of_lt (by omega)
      have hround := below_unpack_pack (below_ofNat hlog) (by decide) (by decide)
      have hn : n.toUInt64.toNat = n := UInt64.toNat_ofNat_of_lt' h
      rw [← hn] at hround
      exact hround
    have hone : Below 0 (unpack .binary64
        (Float.exactlyRepresentablePowersOfTen[0]).toModel.toBits.toBitVec) :=
      .finite (by decide : (-52 : Int) ≤ 0)
    exact (below_unpack_pack (below_mul hx hone (by decide)) (by decide) (by decide)).mono
      (by decide)
  · exact (below_unpack_pack (below_ofScientific h) (by decide) (by decide)).mono (by decide)

/-- **Integers.**  An integer of at most 64 bits and its sign has a finite double. -/
theorem isFinite_ofInt {i : Int} (h : i.natAbs < 2 ^ 64) : (Float.ofInt i).isFinite = true := by
  cases i with
  | ofNat n => exact (below_unpack_ofNat h).isFinite
  | negSucc n =>
      exact (below_unpack_pack (below_unpack_ofNat h).neg (by decide) (by decide)).isFinite

end SpotForecast.Decimal

namespace SpotForecast.Json

/-- The numbers that a document can hold: integers of 64 bits, with a sign or without, and finite
doubles. -/
def Number.Fits : Number → Prop
  | .integer i => Decimal.leastSigned64 ≤ i ∧ i < Decimal.limit64
  | .real x => x.isFinite = true

/-- A number that a document can hold has a double. -/
theorem Number.toFloat?_of_fits {n : Number} (h : n.Fits) : ∃ x, n.toFloat? = some x := by
  cases n with
  | integer i =>
      simp only [Fits, Decimal.leastSigned64, Decimal.limit64] at h
      have hfinite : (Float.ofInt i).isFinite = true := Decimal.isFinite_ofInt (by omega)
      exact ⟨_, if_pos hfinite⟩
  | real x => exact ⟨x, if_pos h⟩

end SpotForecast.Json
