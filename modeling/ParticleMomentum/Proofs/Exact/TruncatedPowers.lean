import Mathlib

/-!
# Truncated powers

The positive part of a number, raised to a power of at least two, is differentiable everywhere, where it
is cut off as well. `integral_pow_mul_truncated` gives the moments of a truncated power of `n - q`.
-/

namespace ParticleMomentum

open Set
open scoped Nat

/-! ## Derivatives -/

theorem hasDerivWithinAt_truncated_Ici (k : ℕ) {x : ℝ} (nonneg : 0 ≤ x) :
    HasDerivWithinAt (fun y => max y 0 ^ (k + 2)) ((k + 2) * max x 0 ^ (k + 1)) (Ici 0) x := by
  have power : HasDerivWithinAt (fun y => y ^ (k + 2)) (((k + 2 : ℕ) : ℝ) * x ^ (k + 1)) (Ici 0) x :=
    (hasDerivAt_pow (k + 2) x).hasDerivWithinAt
  rw [max_eq_left nonneg]
  refine (power.congr (fun y hy => ?_) ?_).congr_deriv (by push_cast; ring)
  · rw [max_eq_left hy]
  · rw [max_eq_left nonneg]

theorem hasDerivWithinAt_truncated_Iic (k : ℕ) {x : ℝ} (nonpos : x ≤ 0) :
    HasDerivWithinAt (fun y => max y 0 ^ (k + 2)) ((k + 2) * max x 0 ^ (k + 1)) (Iic 0) x := by
  have flat : HasDerivWithinAt (fun _ => (0 : ℝ)) 0 (Iic 0) x := hasDerivWithinAt_const x _ 0
  refine (flat.congr (fun y hy => ?_) ?_).congr_deriv ?_
  · rw [max_eq_right hy, zero_pow (by omega)]
  · rw [max_eq_right nonpos, zero_pow (by omega)]
  · rw [max_eq_right nonpos, zero_pow (by omega), mul_zero]

/-- A truncated power is differentiable; at zero both one-sided derivatives vanish. -/
theorem hasDerivAt_truncated (k : ℕ) (x : ℝ) :
    HasDerivAt (fun y => max y 0 ^ (k + 2)) ((k + 2) * max x 0 ^ (k + 1)) x := by
  rcases lt_trichotomy x 0 with neg | zero | pos
  · exact (hasDerivWithinAt_truncated_Iic k neg.le).hasDerivAt (Iic_mem_nhds neg)
  · have both := (hasDerivWithinAt_truncated_Iic k zero.le).union
      (hasDerivWithinAt_truncated_Ici k zero.ge)
    rw [Iic_union_Ici] at both
    exact both.hasDerivAt Filter.univ_mem
  · exact (hasDerivWithinAt_truncated_Ici k pos.le).hasDerivAt (Ici_mem_nhds pos)

/-- The derivative of a truncated power of `n - q`. -/
theorem hasDerivAt_truncated_sub (k : ℕ) (n q : ℝ) :
    HasDerivAt (fun q => max (n - q) 0 ^ (k + 2)) (-(k + 2) * max (n - q) 0 ^ (k + 1)) q := by
  refine ((hasDerivAt_truncated k (n - q)).comp q ((hasDerivAt_id q).const_sub n)).congr_deriv ?_
  ring

/-! ## Moments -/

/-- The integral of a product of powers, over the interval on which neither base is negative. -/
theorem integral_pow_mul_sub_pow (j m : ℕ) (n : ℝ) :
    ∫ q in (0 : ℝ)..n, q ^ j * (n - q) ^ m = n ^ (j + m + 1) * (j ! * m !) / (j + m + 1)! := by
  induction j generalizing m with
  | zero =>
      simp only [pow_zero, one_mul]
      rw [intervalIntegral.integral_comp_sub_left (fun u : ℝ => u ^ m) n, sub_self, sub_zero,
        integral_pow, zero_add, Nat.factorial_succ]
      have := Nat.factorial_ne_zero m
      push_cast
      field_simp
      simp
  | succ j ih =>
      -- by parts, which moves one power from the first factor to the second
      have first (q : ℝ) : HasDerivAt (fun q => q ^ (j + 1)) ((j + 1) * q ^ j) q := by
        simpa using hasDerivAt_pow (j + 1) q
      have second (q : ℝ) : HasDerivAt (fun q => -((n - q) ^ (m + 1) / (m + 1))) ((n - q) ^ m) q := by
        have power := ((hasDerivAt_id q).const_sub n).pow (m + 1)
        refine (power.div_const (m + 1 : ℝ)).neg.congr_deriv ?_
        push_cast
        field_simp
        simp
      have parts := intervalIntegral.integral_mul_deriv_eq_deriv_mul
        (fun q (_ : q ∈ uIcc 0 n) => first q) (fun q _ => second q)
        (Continuous.intervalIntegrable (by fun_prop) _ _)
        (Continuous.intervalIntegrable (by fun_prop) _ _)
      have moved (q : ℝ) : (j + 1) * q ^ j * -((n - q) ^ (m + 1) / (m + 1)) =
          -((j + 1) / (m + 1)) * (q ^ j * (n - q) ^ (m + 1)) := by ring
      have ends : n ^ (j + 1) * -((n - n) ^ (m + 1) / (m + 1 : ℝ)) -
          0 ^ (j + 1) * -((n - 0) ^ (m + 1) / (m + 1 : ℝ)) = 0 := by simp
      rw [parts, ends, funext moved, intervalIntegral.integral_const_mul, ih, Nat.factorial_succ m,
        Nat.factorial_succ j, show j + (m + 1) + 1 = j + 1 + m + 1 by omega]
      push_cast
      field_simp
      ring

/-- The moment of a truncated power, over an interval that holds all of it. -/
theorem integral_pow_mul_truncated (j m : ℕ) {n R : ℝ} (nonneg : 0 ≤ n) (inside : n ≤ R) :
    ∫ q in (0 : ℝ)..R, q ^ j * max (n - q) 0 ^ (m + 1) =
      n ^ (j + m + 2) * (j ! * (m + 1)!) / (j + m + 2)! := by
  have integrable (a b : ℝ) : IntervalIntegrable (fun q => q ^ j * max (n - q) 0 ^ (m + 1))
      MeasureTheory.volume a b := Continuous.intervalIntegrable (by fun_prop) a b
  have beyond : ∫ q in n..R, q ^ j * max (n - q) 0 ^ (m + 1) = 0 := by
    refine (intervalIntegral.integral_congr fun q hq => ?_).trans intervalIntegral.integral_zero
    rw [uIcc_of_le inside] at hq
    change q ^ j * max (n - q) 0 ^ (m + 1) = 0
    rw [max_eq_right (by linarith [hq.1]), zero_pow m.succ_ne_zero, mul_zero]
  have within : ∫ q in (0 : ℝ)..n, q ^ j * max (n - q) 0 ^ (m + 1) =
      ∫ q in (0 : ℝ)..n, q ^ j * (n - q) ^ (m + 1) := by
    refine intervalIntegral.integral_congr fun q hq => ?_
    rw [uIcc_of_le nonneg] at hq
    rw [max_eq_left (by linarith [hq.2])]
  rw [← intervalIntegral.integral_add_adjacent_intervals (integrable 0 n) (integrable n R), beyond,
    within, add_zero, integral_pow_mul_sub_pow]
  rfl

end ParticleMomentum
