import Mathlib.Algebra.Ring.Nat
import TargetEncoding.Proofs.NearestMultiple
import TargetEncoding.Single

/-!
# Whole numbers as single-precision numbers

A whole number is stored as the nearest count of units of 2⁻¹⁴⁹.  Counting in finer units shifts the
binary digits and nothing else, so storing a number and reading it back rounds it to its leading 24
digits.  Up to 2²⁴ nothing is lost.

## Key results

- `roundSignificant_mul_two_pow`: rounding does not depend on the unit
- `Single.toIndex_ofNat`: what is read back of a machine index
- `Single.toIndex_ofNat_of_le`: small numbers come back as they were
- `Single.ofNat_min_add_one`: counting by ones is exact up to 2²⁴, where it stops
-/

namespace TargetEncoding

/-! ## Numbers that need no rounding -/

theorem bitLength_le_iff {n k : Nat} : bitLength n ≤ k ↔ n < 2 ^ k := by
  unfold bitLength
  split
  · next h => exact ⟨fun _ => h ▸ Nat.two_pow_pos k, fun _ => Nat.zero_le k⟩
  · next h => rw [Nat.succ_le_iff, Nat.log2_lt h]

theorem roundSignificant_eq (bits n : Nat) :
    roundSignificant bits n = roundToMultiple (2 ^ (bitLength n - bits)) n := rfl

theorem roundSignificant_nearest (bits n : Nat) :
    IsNearestMultiple (2 ^ (bitLength n - bits)) n (roundSignificant bits n) :=
  roundToMultiple_nearest (Nat.two_pow_pos _) n

/-- A number that is a multiple of the last place that is kept is kept as a whole. -/
theorem roundSignificant_of_dvd {bits n : Nat} (h : 2 ^ (bitLength n - bits) ∣ n) :
    roundSignificant bits n = n :=
  roundToMultiple_of_dvd (Nat.two_pow_pos _) h

/-- A number that is short enough is kept. -/
theorem roundSignificant_of_lt {bits n : Nat} (h : n < 2 ^ bits) :
    roundSignificant bits n = n := by
  have hdrop : bitLength n - bits = 0 := Nat.sub_eq_zero_of_le (bitLength_le_iff.2 h)
  apply roundSignificant_of_dvd
  rw [hdrop, Nat.pow_zero]
  exact Nat.one_dvd n

/-! ## Rounding in finer units -/

theorem bitLength_mul_two_pow {n : Nat} (hn : n ≠ 0) (k : Nat) :
    bitLength (n * 2 ^ k) = bitLength n + k := by
  have hpos : n * 2 ^ k ≠ 0 := Nat.mul_ne_zero hn (Nat.ne_of_gt (Nat.two_pow_pos k))
  have hlog : (n * 2 ^ k).log2 = n.log2 + k := by
    obtain ⟨hle, hlt⟩ := (Nat.log2_eq_iff hn).1 rfl
    rw [Nat.log2_eq_iff hpos, Nat.pow_add, Nat.add_right_comm, Nat.pow_add]
    exact ⟨Nat.mul_le_mul_right _ hle, Nat.mul_lt_mul_of_pos_right hlt (Nat.two_pow_pos k)⟩
  simp only [bitLength, hn, hpos, if_false, hlog]
  omega

/-- Rounding to a multiple of the step commutes with a change of the unit. -/
theorem roundToMultiple_mul (step n : Nat) {c : Nat} (hc : 0 < c) :
    roundToMultiple (step * c) (n * c) = roundToMultiple step n * c := by
  have hdiv : n * c / (step * c) = n / step := Nat.mul_div_mul_right n step hc
  have hmod : n * c % (step * c) = n % step * c := Nat.mul_mod_mul_right c n step
  have hdouble : 2 * (n % step * c) = 2 * (n % step) * c := (Nat.mul_assoc ..).symm
  have hless : 2 * (n % step) * c < step * c ↔ 2 * (n % step) < step := Nat.mul_lt_mul_right hc
  have htie : 2 * (n % step) * c = step * c ↔ 2 * (n % step) = step :=
    Nat.mul_left_inj (Nat.ne_of_gt hc)
  simp only [roundToMultiple, hdiv, hmod, hdouble, hless, htie, ← Nat.mul_assoc]
  split <;> rfl

/-- Rounding does not depend on the unit. -/
theorem roundSignificant_mul_two_pow (bits n k : Nat) :
    roundSignificant bits (n * 2 ^ k) = roundSignificant bits n * 2 ^ k := by
  by_cases hn : n = 0
  · rw [hn, Nat.zero_mul, roundSignificant_of_lt (Nat.two_pow_pos bits), Nat.zero_mul]
  have hlen := bitLength_mul_two_pow hn k
  by_cases hshort : bitLength n ≤ bits
  · -- nothing is dropped before the change of the unit, and only zeros after it
    rw [roundSignificant_of_lt (bitLength_le_iff.1 hshort)]
    apply roundSignificant_of_dvd
    have hle : bitLength (n * 2 ^ k) - bits ≤ k := by omega
    exact Nat.dvd_trans (Nat.pow_dvd_pow 2 hle) (Nat.dvd_mul_left _ n)
  · have hdrop : bitLength (n * 2 ^ k) - bits = bitLength n - bits + k := by omega
    rw [roundSignificant_eq, hdrop, Nat.pow_add, roundToMultiple_mul _ _ (Nat.two_pow_pos k)]
    rfl

namespace Single

theorem unitsPerOne_eq : unitsPerOne = 2 ^ 149 := rfl

/-- A whole number that does not round out of reach is stored as it is rounded. -/
theorem ofNat_of_round_lt {n : Nat} (h : roundSignificant significantBits n < 2 ^ 128) :
    ofNat n = .finite false (roundSignificant significantBits n * unitsPerOne) := by
  have hpos : 0 < unitsPerOne := Nat.two_pow_pos 149
  have hfinite : roundSignificant significantBits n * unitsPerOne < unitsLimit := by
    rw [unitsLimit]
    exact Nat.mul_lt_mul_of_pos_right h hpos
  have hunits : roundSignificant significantBits (n * unitsPerOne) =
      roundSignificant significantBits n * unitsPerOne := by
    rw [unitsPerOne_eq, roundSignificant_mul_two_pow]
  rw [ofNat, ofUnits, hunits, if_pos hfinite]

/-! ## Indices that are stored and read back -/

/-- A machine index is read back rounded to its leading digits, and cut off at the largest one. -/
theorem toIndex_ofNat {n : Nat} (hn : n < indexLimit) :
    (ofNat n).toIndex = min (roundSignificant significantBits n) largestIndex := by
  have hdvd : 2 ^ (bitLength n - significantBits) ∣ indexLimit := by
    have hlen : bitLength n ≤ 64 := bitLength_le_iff.2 hn
    exact Nat.pow_dvd_pow 2 (by omega)
  have hround : roundSignificant significantBits n ≤ indexLimit :=
    (roundSignificant_nearest _ n).le_multiple hdvd (Nat.le_of_lt hn)
  have hlimit : indexLimit < 2 ^ 128 := by decide
  have hpos : 0 < unitsPerOne := Nat.two_pow_pos 149
  rw [ofNat_of_round_lt (Nat.lt_of_le_of_lt hround hlimit), toIndex, Nat.mul_div_cancel _ hpos]

theorem roundSignificant_of_le {n : Nat} (hn : n ≤ 2 ^ 24) :
    roundSignificant significantBits n = n := by
  by_cases heq : n = 2 ^ 24
  · rw [heq]; decide
  · exact roundSignificant_of_lt (by unfold significantBits; omega)

/-- Numbers of up to 24 digits, and the one after them, come back as they were. -/
theorem toIndex_ofNat_of_le {n : Nat} (hn : n ≤ 2 ^ 24) : (ofNat n).toIndex = n := by
  have hlimit : n < indexLimit := Nat.lt_of_le_of_lt hn (by decide)
  rw [toIndex_ofNat hlimit, roundSignificant_of_le hn, largestIndex]
  omega

/-! ## Counting by ones -/

/-- Numbers of up to 24 digits, and the one after them, are stored without rounding. -/
theorem ofNat_of_le {n : Nat} (hn : n ≤ 2 ^ 24) : ofNat n = .finite false (n * unitsPerOne) := by
  have hround := roundSignificant_of_le hn
  have hlt : roundSignificant significantBits n < 2 ^ 128 := by
    rw [hround]
    exact Nat.lt_of_le_of_lt hn (by decide)
  rw [ofNat_of_round_lt hlt, hround]

theorem toInt?_ofNat_of_le {n : Nat} (hn : n ≤ 2 ^ 24) : (ofNat n).toInt? = some (n : Int) := by
  have hpos : 0 < unitsPerOne := Nat.two_pow_pos 149
  rw [ofNat_of_le hn, toInt?, Nat.mul_mod_left, if_pos rfl, Nat.mul_div_cancel _ hpos]
  rfl

/-- Numbers of one sign are added unit by unit. -/
theorem finite_add_finite (negative : Bool) (m n : Nat) :
    Single.finite negative m + .finite negative n = ofUnits negative (m + n) :=
  if_pos rfl

/-- A count goes up by one as long as it is stored without rounding. -/
theorem ofNat_add_one {n : Nat} (hn : n ≤ 2 ^ 24) : ofNat n + 1 = ofNat (n + 1) := by
  have hone : (1 : Single) = .finite false (1 * unitsPerOne) := ofNat_of_le (by decide)
  rw [ofNat_of_le hn, hone, finite_add_finite, ← Nat.add_mul, ← ofNat]

/-- A count stops at 2²⁴, since one more is halfway to the next number and goes back. -/
theorem ofNat_min_add_one (n : Nat) :
    ofNat (min n (2 ^ 24)) + 1 = ofNat (min (n + 1) (2 ^ 24)) := by
  rw [ofNat_add_one (Nat.min_le_right n (2 ^ 24))]
  by_cases hn : n < 2 ^ 24
  · rw [Nat.min_eq_left (by omega), Nat.min_eq_left (by omega)]
  · rw [Nat.min_eq_right (by omega), Nat.min_eq_right (by omega)]
    decide

end Single

end TargetEncoding
