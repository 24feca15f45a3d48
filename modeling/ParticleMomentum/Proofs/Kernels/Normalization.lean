import ParticleMomentum.Proofs.Kernels.Shape

/-!
# The normalization of a kernel

Over the space in which it lives, a kernel integrates to one, exactly. The integral over space is an
integral over separations, weighted with the spheres around the centre; in smoothing lengths it is a
moment of the spline profile, and the normalization is the reciprocal of what comes out.
-/

namespace ParticleMomentum

open Arithmetic MeasureTheory
open scoped Nat

/-- The measure of the unit sphere in one, two or three dimensions. -/
noncomputable def unitSphere (dimension : Nat) : ℝ :=
  if dimension = 1 then 2 else if dimension = 2 then 2 * Real.pi else 4 * Real.pi

namespace Spline

/-! ## Moments of the profiles -/

theorem moment_cubic (j : ℕ) :
    ∫ q in (0 : ℝ)..2, q ^ j * profile .cubic q =
      (2 ^ (j + 4) / 4 - 1) * (j ! * 3 !) / (j + 4)! := by
  have pieces (q : ℝ) : q ^ j * profile .cubic q =
      1 / 4 * (q ^ j * max (2 - q) 0 ^ 3) - q ^ j * max (1 - q) 0 ^ 3 := by
    rw [profile_cubic]
    ring
  rw [funext pieces, intervalIntegral.integral_sub (Continuous.intervalIntegrable (by fun_prop) _ _)
    (Continuous.intervalIntegrable (by fun_prop) _ _), intervalIntegral.integral_const_mul,
    integral_pow_mul_truncated j 2 (by norm_num) le_rfl,
    integral_pow_mul_truncated j 2 (by norm_num) (by norm_num)]
  ring

theorem moment_quintic (j : ℕ) :
    ∫ q in (0 : ℝ)..3, q ^ j * profile .quintic q =
      (3 ^ (j + 6) - 6 * 2 ^ (j + 6) + 15) * (j ! * 5 !) / (j + 6)! := by
  have pieces (q : ℝ) : q ^ j * profile .quintic q =
      q ^ j * max (3 - q) 0 ^ 5 - 6 * (q ^ j * max (2 - q) 0 ^ 5) +
        15 * (q ^ j * max (1 - q) 0 ^ 5) := by
    rw [profile_quintic]
    ring
  rw [funext pieces, intervalIntegral.integral_add (Continuous.intervalIntegrable (by fun_prop) _ _)
    (Continuous.intervalIntegrable (by fun_prop) _ _),
    intervalIntegral.integral_sub (Continuous.intervalIntegrable (by fun_prop) _ _)
    (Continuous.intervalIntegrable (by fun_prop) _ _), intervalIntegral.integral_const_mul,
    intervalIntegral.integral_const_mul,
    integral_pow_mul_truncated j 4 (by norm_num) le_rfl,
    integral_pow_mul_truncated j 4 (by norm_num) (by norm_num),
    integral_pow_mul_truncated j 4 (by norm_num) (by norm_num)]
  ring

/-- The integral of a profile over space, in smoothing lengths. -/
noncomputable def mass (spline : Spline) (dimension : Nat) : ℝ :=
  match spline with
  | cubic => if dimension = 1 then 3 / 2 else if dimension = 2 then 7 / 10 * Real.pi else Real.pi
  | quintic =>
    if dimension = 1 then 120 else if dimension = 2 then 478 / 7 * Real.pi else 120 * Real.pi

theorem mass_pos (spline : Spline) (dimension : Nat) : 0 < spline.mass dimension := by
  have hpi := Real.pi_pos
  cases spline
  all_goals
    rw [mass]
    split_ifs
    all_goals positivity

theorem unitSphere_mul_moment (spline : Spline) {dimension : Nat} (allowed : dimension ∈ [1, 2, 3]) :
    unitSphere dimension * ∫ q in (0 : ℝ)..spline.supportRatio,
      q ^ (dimension - 1) * spline.profile q = spline.mass dimension := by
  cases spline with
  | cubic =>
      rw [supportRatio, two_literal, moment_cubic, mass, unitSphere]
      rcases Kernel.dimension_cases allowed with rfl | rfl | rfl
      · norm_num [Nat.factorial]
      · norm_num [Nat.factorial]
        ring
      · norm_num [Nat.factorial]
        ring
  | quintic =>
      rw [supportRatio, three_literal, moment_quintic, mass, unitSphere]
      rcases Kernel.dimension_cases allowed with rfl | rfl | rfl
      · norm_num [Nat.factorial]
      · norm_num [Nat.factorial]
        ring
      · norm_num [Nat.factorial]
        ring

/-- The normalization is the reciprocal of the integral over space. -/
theorem normalization_eq {spline : Spline} {dimension : Nat} {h c : ℝ}
    (allowed : dimension ∈ [1, 2, 3]) (hc : spline.normalization dimension h = .ok c) :
    c = 1 / (spline.mass dimension * h ^ dimension) := by
  cases spline with
  | cubic =>
      simp only [normalization, boundedPower_real] at hc
      rcases Kernel.dimension_cases allowed with rfl | rfl | rfl
      · norm_num [(quotient_real_eq_ok_iff.mp hc).2, mass]
        ring
      · norm_num [(quotient_real_eq_ok_iff.mp hc).2, mass]
        ring
      · norm_num [(quotient_real_eq_ok_iff.mp hc).2, mass]
  | quintic =>
      simp only [normalization, boundedPower_real] at hc
      rcases Kernel.dimension_cases allowed with rfl | rfl | rfl
      · norm_num [(quotient_real_eq_ok_iff.mp hc).2, mass]
      · norm_num [(quotient_real_eq_ok_iff.mp hc).2, mass]
        ring
      · norm_num [(quotient_real_eq_ok_iff.mp hc).2, mass]

end Spline

/-! ## Kernels -/

namespace Kernel

variable {kernel : Kernel ℝ} {spline : Spline} {dimension : Nat} {radius : ℝ}

/-- The moments of a kernel are those of its profile, scaled. -/
theorem Sound.moment (h : kernel.Sound) (j : ℕ) :
    ∫ r in (0 : ℝ)..kernel.supportRadius, r ^ j * kernel.value r =
      kernel.normalization * kernel.smoothingLength ^ (j + 1) *
        ∫ q in (0 : ℝ)..kernel.spline.supportRatio, q ^ j * kernel.spline.profile q := by
  have length := h.length_pos.ne'
  have scaled (r : ℝ) : r ^ j * kernel.value r =
      kernel.normalization * kernel.smoothingLength ^ j *
        ((r / kernel.smoothingLength) ^ j * kernel.spline.profile (r / kernel.smoothingLength)) := by
    rw [value, div_pow]
    field_simp
  -- in smoothing lengths the support ends where the profile does
  have ends : kernel.supportRadius / kernel.smoothingLength = kernel.spline.supportRatio := by
    rw [h.length_eq, div_div_cancel₀ h.radius_pos.ne']
  rw [funext scaled, intervalIntegral.integral_const_mul,
    intervalIntegral.integral_comp_div (fun q => q ^ j * kernel.spline.profile q) length, ends,
    zero_div, smul_eq_mul]
  ring

theorem ReadyFor.allowed (h : kernel.ReadyFor spline dimension radius) : dimension ∈ [1, 2, 3] :=
  h.dimension_eq ▸ (h.reachable.selfConsistent h.ready).dimension

theorem ReadyFor.dimension_pos (h : kernel.ReadyFor spline dimension radius) : 0 < dimension := by
  rcases dimension_cases h.allowed with rfl | rfl | rfl
  all_goals decide

theorem ReadyFor.normalization_eq (h : kernel.ReadyFor spline dimension radius) :
    kernel.normalization = 1 / (kernel.spline.mass dimension * kernel.smoothingLength ^ dimension) := by
  obtain rfl := h.dimension_eq
  exact Spline.normalization_eq h.allowed (h.reachable.selfConsistent h.ready).normalization

/-- Summed up over the spheres around its centre, a kernel makes one. -/
theorem ReadyFor.integral_spheres (h : kernel.ReadyFor spline dimension radius) :
    unitSphere dimension * ∫ r in (0 : ℝ)..radius, r ^ (dimension - 1) * kernel.value r = 1 := by
  have length := h.sound.length_pos
  have mass := kernel.spline.mass_pos dimension
  rw [← h.radius_eq, h.sound.moment, Nat.sub_add_cancel h.dimension_pos, mul_left_comm,
    kernel.spline.unitSphere_mul_moment h.allowed, h.normalization_eq]
  field_simp

/-- The measure of the unit sphere is that of the unit ball, times the dimension. -/
theorem volume_unitBall (allowed : dimension ∈ [1, 2, 3]) :
    dimension * volume.real (Metric.ball (0 : EuclideanSpace ℝ (Fin dimension)) 1) =
      unitSphere dimension := by
  rcases dimension_cases allowed with rfl | rfl | rfl
  · rw [Measure.real, InnerProductSpace.volume_ball_of_dim_odd (k := 0) (by simp)]
    norm_num [unitSphere]
  · rw [Measure.real, EuclideanSpace.volume_ball_fin_two, ENNReal.ofReal_one, one_pow, one_mul,
      ENNReal.toReal_ofReal (by positivity)]
    norm_num [unitSphere]
  · rw [Measure.real, EuclideanSpace.volume_ball_fin_three, ENNReal.ofReal_one, one_pow, one_mul,
      ENNReal.toReal_ofReal (by positivity)]
    norm_num [unitSphere]
    ring

/-- From the end of its support on a kernel adds nothing to an integral. -/
theorem Sound.integral_Ioi (h : kernel.Sound) (j : ℕ) :
    ∫ r in Set.Ioi (0 : ℝ), r ^ j • kernel.value r =
      ∫ r in (0 : ℝ)..kernel.supportRadius, r ^ j * kernel.value r := by
  rw [intervalIntegral.integral_of_le h.radius_pos.le]
  refine setIntegral_eq_of_subset_of_forall_sdiff_eq_zero measurableSet_Ioi Set.Ioc_subset_Ioi_self
    fun r outside => ?_
  rw [Set.mem_sdiff, Set.mem_Ioc, not_and, not_le] at outside
  rw [h.value_of_le (outside.2 outside.1).le, smul_zero]

/-- Over space, a kernel makes one. -/
theorem ReadyFor.integral_space (h : kernel.ReadyFor spline dimension radius) :
    ∫ x : EuclideanSpace ℝ (Fin dimension), kernel.value ‖x‖ = 1 := by
  have nontrivial : Nontrivial (EuclideanSpace ℝ (Fin dimension)) := by
    refine Module.nontrivial_of_finrank_pos (R := ℝ) ?_
    rw [finrank_euclideanSpace_fin]
    exact h.dimension_pos
  rw [integral_fun_norm_addHaar volume kernel.value, finrank_euclideanSpace_fin,
    h.sound.integral_Ioi, h.radius_eq, nsmul_eq_mul, smul_eq_mul, ← mul_assoc,
    volume_unitBall h.allowed]
  exact h.integral_spheres

/-- Every kernel is normalized, whatever its spline, its dimension and its radius: summed up over the
spheres around its centre, and over space. -/
theorem kernel_normalized (spline : Spline) (allowed : dimension ∈ [1, 2, 3]) (pos : 0 < radius) :
    (∃ kernel : Kernel ℝ, kernel.ReadyFor spline dimension radius) ∧
    ∀ kernel : Kernel ℝ, kernel.ReadyFor spline dimension radius →
      unitSphere dimension * ∫ r in (0 : ℝ)..radius, r ^ (dimension - 1) * kernel.value r = 1 ∧
      ∫ x : EuclideanSpace ℝ (Fin dimension), kernel.value ‖x‖ = 1 :=
  ⟨exists_readyFor spline allowed pos, fun _ h => ⟨h.integral_spheres, h.integral_space⟩⟩

/-- A quintic kernel in the plane. -/
theorem kernel_normalized_quintic :
    2 ∈ [1, 2, 3] ∧ (0 : ℝ) < 1 / 2 ∧
    ∃ kernel : Kernel ℝ, kernel.ReadyFor .quintic 2 (1 / 2) ∧
      ∫ x : EuclideanSpace ℝ (Fin 2), kernel.value ‖x‖ = 1 := by
  have pos : (0 : ℝ) < 1 / 2 := by norm_num
  obtain ⟨⟨kernel, h⟩, normalized⟩ := kernel_normalized .quintic (by decide : 2 ∈ [1, 2, 3]) pos
  exact ⟨by decide, pos, kernel, h, (normalized kernel h).2⟩

end Kernel

end ParticleMomentum
