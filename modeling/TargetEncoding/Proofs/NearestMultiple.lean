import Mathlib.Data.Nat.Dist
import TargetEncoding.Single.Rounding

/-!
# The nearest multiple

Rounding can be described without digits and remainders: the result is a multiple of the step, as
near to the number as a multiple can be, and the even one where two are equally near.  This fixes
the result, and it alone decides that rounding never reorders two numbers and never jumps over a
multiple.

## Key results

- `roundToMultiple_nearest`: rounding gives the nearest multiple
- `IsNearestMultiple.mono`: the nearest multiple grows with the number
- `IsNearestMultiple.unique`: there is only one
- `roundToMultiple_of_dvd`: a multiple is kept
-/

namespace TargetEncoding

/-- `r` is the multiple of `step` that is nearest to `n`; of two equally near ones it is the even
multiple. -/
structure IsNearestMultiple (step n r : Nat) : Prop where
  dvd : step ∣ r
  nearest : ∀ m, step ∣ m → Nat.dist n r ≤ Nat.dist n m
  even_of_tie : ∀ m, step ∣ m → m ≠ r → Nat.dist n m = Nat.dist n r → 2 * step ∣ r

/-- No multiple lies between the two that enclose a number. -/
theorem le_or_le_of_dvd {step n m : Nat} (hdvd : step ∣ m) :
    m ≤ n / step * step ∨ n / step * step + step ≤ m := by
  obtain ⟨k, rfl⟩ := hdvd
  rw [← Nat.succ_mul, Nat.mul_comm step k]
  by_cases hk : k ≤ n / step
  · exact .inl (Nat.mul_le_mul_right step hk)
  · exact .inr (Nat.mul_le_mul_right step (Nat.not_le.1 hk))

/-- Rounding down is right when the rest is less than half a step, or half of it above an even
multiple. -/
theorem nearest_below {step n : Nat}
    (h : 2 * (n % step) < step ∨ (2 * (n % step) = step ∧ n / step % 2 = 0)) :
    IsNearestMultiple step n (n / step * step) := by
  have hn : n / step * step + n % step = n := Nat.div_add_mod' n step
  refine ⟨Nat.dvd_mul_left step _, ?_, ?_⟩
  · intro m hm
    have hside := le_or_le_of_dvd (n := n) hm
    simp only [Nat.dist]
    omega
  · intro m hm hne hdist
    have hside := le_or_le_of_dvd (n := n) hm
    simp only [Nat.dist] at hdist
    -- only the multiple above can be as near, and then the rest is half a step
    have heven : n / step % 2 = 0 := by omega
    exact Nat.mul_dvd_mul_right (Nat.dvd_of_mod_eq_zero heven) step

/-- Rounding up is right when the rest is more than half a step, or half of it above an odd
multiple. -/
theorem nearest_above {step n : Nat} (hstep : 0 < step)
    (h : ¬ (2 * (n % step) < step ∨ (2 * (n % step) = step ∧ n / step % 2 = 0))) :
    IsNearestMultiple step n ((n / step + 1) * step) := by
  have hn : n / step * step + n % step = n := Nat.div_add_mod' n step
  have hrest : n % step < step := Nat.mod_lt n hstep
  have habove : (n / step + 1) * step = n / step * step + step := Nat.succ_mul _ step
  refine ⟨Nat.dvd_mul_left step _, ?_, ?_⟩
  · intro m hm
    have hside := le_or_le_of_dvd (n := n) hm
    simp only [Nat.dist, habove]
    omega
  · intro m hm hne hdist
    have hside := le_or_le_of_dvd (n := n) hm
    simp only [Nat.dist, habove] at hne hdist
    -- only the multiple below can be as near, and it is odd
    have heven : (n / step + 1) % 2 = 0 := by omega
    exact Nat.mul_dvd_mul_right (Nat.dvd_of_mod_eq_zero heven) step

theorem roundToMultiple_nearest {step : Nat} (hstep : 0 < step) (n : Nat) :
    IsNearestMultiple step n (roundToMultiple step n) := by
  unfold roundToMultiple
  split
  · next h => exact nearest_below h
  · next h => exact nearest_above hstep h

namespace IsNearestMultiple

variable {step m n r r' : Nat}

/-- The nearest multiple of a larger number is not smaller. -/
theorem mono (h : IsNearestMultiple step m r) (h' : IsNearestMultiple step n r') (hle : m ≤ n) :
    r ≤ r' := by
  apply Nat.not_lt.1
  intro hlt
  have hnear := h.nearest r' h'.dvd
  have hnear' := h'.nearest r h.dvd
  simp only [Nat.dist] at hnear hnear'
  -- both multiples would be nearest to one number, halfway between them
  have hm : 2 * m = r + r' := by omega
  have hn : 2 * n = r + r' := by omega
  have heven : 2 * step ∣ r := h.even_of_tie r' h'.dvd (by omega) (by simp only [Nat.dist]; omega)
  have heven' : 2 * step ∣ r' := h'.even_of_tie r h.dvd (by omega) (by simp only [Nat.dist]; omega)
  -- but between two even multiples there is an odd one, which is nearer
  have hpos : 0 < step := Nat.pos_of_dvd_of_pos h.dvd (by omega)
  have hgap : 2 * step ≤ r - r' := Nat.le_of_dvd (by omega) (Nat.dvd_sub heven heven')
  have hodd := h'.nearest (r' + step) (Nat.dvd_add h'.dvd (Nat.dvd_refl step))
  simp only [Nat.dist] at hodd
  omega

/-- A multiple is nearest to itself. -/
theorem self (h : step ∣ n) : IsNearestMultiple step n n where
  dvd := h
  nearest m _ := by
    rw [Nat.dist_self]
    exact Nat.zero_le _
  even_of_tie m _ hne hdist := by
    rw [Nat.dist_self] at hdist
    exact absurd (Nat.eq_of_dist_eq_zero hdist).symm hne

/-- There is only one. -/
theorem unique (h : IsNearestMultiple step n r) (h' : IsNearestMultiple step n r') : r = r' :=
  Nat.le_antisymm (h.mono h' (Nat.le_refl n)) (h'.mono h (Nat.le_refl n))

/-- It does not fall below a multiple that the number has reached. -/
theorem multiple_le (h : IsNearestMultiple step n r) (hdvd : step ∣ m) (hle : m ≤ n) : m ≤ r := by
  have hnear := h.nearest m hdvd
  simp only [Nat.dist] at hnear
  omega

/-- It does not go above a multiple that the number has not passed. -/
theorem le_multiple (h : IsNearestMultiple step n r) (hdvd : step ∣ m) (hle : n ≤ m) : r ≤ m := by
  have hnear := h.nearest m hdvd
  simp only [Nat.dist] at hnear
  omega

end IsNearestMultiple

/-- A multiple is kept. -/
theorem roundToMultiple_of_dvd {step n : Nat} (hstep : 0 < step) (h : step ∣ n) :
    roundToMultiple step n = n :=
  (roundToMultiple_nearest hstep n).unique (.self h)

end TargetEncoding
