import ParticleMomentum.Proofs.Exact.Kernels
import ParticleMomentum.Proofs.Exact.TruncatedPowers

/-!
# The shape of a kernel

In exact arithmetic the slope of a kernel is the derivative of its value, at every separation: also where
two pieces of its spline meet, and beyond the support. From the sign of the slope follows the shape. A
kernel falls from its centre to the end of its support, where it reaches zero and stays.
-/

namespace ParticleMomentum

open Arithmetic Set

/-! ## Profiles -/

namespace Spline

variable {q : ℝ} (spline : Spline) (sampling : Sampling)

theorem profile_cubic (q : ℝ) :
    profile .cubic q = 1 / 4 * max (2 - q) 0 ^ 3 - max (1 - q) 0 ^ 3 := by
  simp only [profile, power_real, positivePart_real]
  norm_num

theorem profile_quintic (q : ℝ) :
    profile .quintic q =
      max (3 - q) 0 ^ 5 - 6 * max (2 - q) 0 ^ 5 + 15 * max (1 - q) 0 ^ 5 := by
  simp only [profile, power_real, positivePart_real]
  norm_num

/-- The slope of a profile is its derivative, at the knots as well. -/
theorem hasDerivAt_profile (q : ℝ) :
    HasDerivAt (spline.profile : ℝ → ℝ) (spline.profileSlope sampling q) q := by
  cases spline with
  | cubic =>
      rw [funext profile_cubic, profileSlope_cubic]
      refine (((hasDerivAt_truncated_sub 1 2 q).const_mul (1 / 4)).sub
        (hasDerivAt_truncated_sub 1 1 q)).congr_deriv ?_
      ring
  | quintic =>
      rw [funext profile_quintic, profileSlope_quintic]
      refine (((hasDerivAt_truncated_sub 3 3 q).sub
        ((hasDerivAt_truncated_sub 3 2 q).const_mul 6)).add
        ((hasDerivAt_truncated_sub 3 1 q).const_mul 15)).congr_deriv ?_
      ring

/-- Beyond the support every truncated power is cut off. -/
theorem profile_of_le (outside : spline.supportRatio ≤ q) : spline.profile q = 0 := by
  cases spline with
  | cubic =>
      norm_num [supportRatio] at outside
      rw [profile_cubic, max_eq_right (by linarith), max_eq_right (by linarith)]
      norm_num
  | quintic =>
      norm_num [supportRatio] at outside
      rw [profile_quintic, max_eq_right (by linarith), max_eq_right (by linarith),
        max_eq_right (by linarith)]
      norm_num

/-- At its centre a profile is flat. -/
theorem profileSlope_zero : spline.profileSlope sampling (0 : ℝ) = 0 := by
  cases spline with
  | cubic =>
      rw [profileSlope_cubic]
      norm_num
  | quintic =>
      rw [profileSlope_quintic]
      norm_num

end Spline

/-! ## Kernels -/

namespace Kernel

variable {kernel : Kernel ℝ} {spline : Spline} {dimension : Nat} {radius : ℝ}

structure ReadyFor (kernel : Kernel ℝ) (spline : Spline) (dimension : Nat) (radius : ℝ) : Prop where
  reachable : kernel.Reachable
  ready : kernel.ready = true
  spline_eq : kernel.spline = spline
  dimension_eq : kernel.dimension = dimension
  radius_eq : kernel.supportRadius = radius

theorem ReadyFor.sound (h : kernel.ReadyFor spline dimension radius) : kernel.Sound :=
  h.reachable.sound h.ready

theorem dimension_cases (allowed : dimension ∈ [1, 2, 3]) :
    dimension = 1 ∨ dimension = 2 ∨ dimension = 3 := by
  simpa using allowed

/-- Every spline can be set up in one, two or three dimensions with every positive radius. -/
theorem exists_readyFor (spline : Spline) (allowed : dimension ∈ [1, 2, 3]) (pos : 0 < radius) :
    ∃ kernel : Kernel ℝ, kernel.ReadyFor spline dimension radius := by
  -- settings that hold nothing but the two values a kernel reads
  let config : Setting ℝ :=
    .record [("support_radius", .real radius), ("kernel_space_dim", .whole dimension)]
  have wantedRadius : (make spline config).wantedRadius = .ok (.real radius) :=
    wantedRadius_of_pos pos rfl
  have wantedDimension : (make spline config).wantedDimension = .ok dimension := by
    rcases dimension_cases allowed with rfl | rfl | rfl <;> rfl
  obtain ⟨kernel, created, hs, hd, hr⟩ := exists_create_of_wants
    ⟨_, wantedRadius, Setting.Number.toReal_eq _, wantedDimension⟩
  obtain ⟨reachable, ready⟩ := reachable_of_create created
  exact ⟨kernel, reachable, ready, hs, hd, hr⟩

/-- The slope of a kernel as a number, where the factor of all slopes exists. -/
noncomputable def slopeAt (kernel : Kernel ℝ) (r : ℝ) : ℝ :=
  kernel.slopeWith (kernel.normalization / kernel.smoothingLength) .single r

/-- The slope of a kernel is the derivative of its value. -/
theorem hasDerivAt_value (kernel : Kernel ℝ) (r : ℝ) :
    HasDerivAt kernel.value (kernel.slopeAt r) r := by
  have scaled := (kernel.spline.hasDerivAt_profile .single (r / kernel.smoothingLength)).comp r
    ((hasDerivAt_id r).div_const kernel.smoothingLength)
  refine (scaled.const_mul kernel.normalization).congr_deriv ?_
  rw [slopeAt, slopeWith]
  ring

theorem slopeAt_zero (kernel : Kernel ℝ) : kernel.slopeAt 0 = 0 := by
  rw [slopeAt, slopeWith, zero_div, Spline.profileSlope_zero, mul_zero]

namespace Sound

variable (h : kernel.Sound)
include h

/-- A sound kernel has a slope everywhere. -/
theorem slope_eq (r : ℝ) : kernel.slope r = .ok (kernel.slopeAt r) := by
  rw [slope, h.slopeFactor_eq]
  rfl

theorem slopes_eq (sampling : Sampling) (rs : List ℝ) :
    kernel.slopes sampling rs = .ok (rs.map kernel.slopeAt) := by
  rw [slopes, h.slopeFactor_eq]
  refine congrArg (fun f => Except.ok (rs.map f)) (funext fun r => ?_)
  exact kernel.slopeWith_sampling _ r sampling .single

theorem slopeAt_neg {r : ℝ} (pos : 0 < r) (inside : r < kernel.supportRadius) : kernel.slopeAt r < 0 :=
  h.slope_neg h.slopeFactor_eq pos inside

theorem slopeAt_of_le {r : ℝ} (outside : kernel.supportRadius ≤ r) : kernel.slopeAt r = 0 :=
  h.slope_of_le outside

theorem value_of_le {r : ℝ} (outside : kernel.supportRadius ≤ r) : kernel.value r = 0 := by
  rw [value, Spline.profile_of_le _ (h.supportRatio_le_iff.mpr outside), mul_zero]

/-- Over its support a kernel falls. -/
theorem strictAntiOn_value : StrictAntiOn kernel.value (Icc 0 kernel.supportRadius) := by
  refine strictAntiOn_of_deriv_neg (convex_Icc 0 _) ?_ fun r inside => ?_
  · exact fun r _ => (hasDerivAt_value kernel r).continuousAt.continuousWithinAt
  · rw [interior_Icc] at inside
    rw [(hasDerivAt_value kernel r).deriv]
    exact h.slopeAt_neg inside.1 inside.2

/-- From zero on, a kernel is positive just inside its support. -/
theorem value_pos_iff {r : ℝ} (nonneg : 0 ≤ r) : 0 < kernel.value r ↔ r < kernel.supportRadius := by
  constructor
  · intro positive
    by_contra outside
    exact positive.ne' (h.value_of_le (not_lt.mp outside))
  · intro inside
    rw [← h.value_of_le le_rfl]
    exact h.strictAntiOn_value ⟨nonneg, inside.le⟩ ⟨h.radius_pos.le, le_rfl⟩ inside

end Sound

/-- The slope of a kernel is the derivative of its value at every separation, whatever its spline, its
dimension and its radius, and it is what the kernel gives for separations one by one and in bulk. -/
theorem slope_is_derivative (spline : Spline) (allowed : dimension ∈ [1, 2, 3]) (pos : 0 < radius) :
    (∃ kernel : Kernel ℝ, kernel.ReadyFor spline dimension radius) ∧
    ∀ kernel : Kernel ℝ, kernel.ReadyFor spline dimension radius →
      (∀ r, kernel.slope r = .ok (kernel.slopeAt r) ∧
        HasDerivAt kernel.value (kernel.slopeAt r) r) ∧
      ∀ sampling rs, kernel.slopes sampling rs = .ok (rs.map kernel.slopeAt) := by
  refine ⟨exists_readyFor spline allowed pos, fun kernel h => ⟨fun r => ⟨?_, ?_⟩, ?_⟩⟩
  · exact h.sound.slope_eq r
  · exact hasDerivAt_value kernel r
  · exact h.sound.slopes_eq

/-- The slope of a quintic kernel in the plane, where its middle piece ends. -/
theorem slope_is_derivative_quintic :
    2 ∈ [1, 2, 3] ∧ (0 : ℝ) < 3 ∧
    ∃ kernel : Kernel ℝ, kernel.ReadyFor .quintic 2 3 ∧
      kernel.slope 2 = .ok (kernel.slopeAt 2) ∧ HasDerivAt kernel.value (kernel.slopeAt 2) 2 := by
  have pos : (0 : ℝ) < 3 := by norm_num
  obtain ⟨⟨kernel, h⟩, derivative⟩ := slope_is_derivative .quintic (by decide : 2 ∈ [1, 2, 3]) pos
  exact ⟨by decide, pos, kernel, h, (derivative kernel h).1 2⟩

/-- A kernel is positive just inside its support and zero from its end on. Within its support it falls,
its slope being negative between the centre and the end of the support; at the centre and from the end of
the support on the slope is zero. -/
theorem kernel_bellShaped (spline : Spline) (allowed : dimension ∈ [1, 2, 3]) (pos : 0 < radius) :
    (∃ kernel : Kernel ℝ, kernel.ReadyFor spline dimension radius) ∧
    ∀ kernel : Kernel ℝ, kernel.ReadyFor spline dimension radius →
      (∀ r, 0 ≤ r → (0 < kernel.value r ↔ r < radius) ∧ (radius ≤ r → kernel.value r = 0)) ∧
      StrictAntiOn kernel.value (Icc 0 radius) ∧
      ∀ r, 0 ≤ r → kernel.slope r = .ok (kernel.slopeAt r) ∧
        (0 < r → r < radius → kernel.slopeAt r < 0) ∧
        (r = 0 ∨ radius ≤ r → kernel.slopeAt r = 0) := by
  refine ⟨exists_readyFor spline allowed pos, fun kernel h => ?_⟩
  obtain rfl := h.radius_eq
  refine ⟨fun r nonneg => ⟨h.sound.value_pos_iff nonneg, h.sound.value_of_le⟩,
    h.sound.strictAntiOn_value, fun r _ => ⟨h.sound.slope_eq r, h.sound.slopeAt_neg, ?_⟩⟩
  rintro (rfl | outside)
  · exact kernel.slopeAt_zero
  · exact h.sound.slopeAt_of_le outside

theorem kernel_bellShaped_cubic :
    3 ∈ [1, 2, 3] ∧ (0 : ℝ) < 2 ∧
    ∃ kernel : Kernel ℝ, kernel.ReadyFor .cubic 3 2 ∧ 0 < kernel.value 1 ∧ kernel.value 2 = 0 ∧
      kernel.slopeAt 1 < 0 := by
  have pos : (0 : ℝ) < 2 := by norm_num
  obtain ⟨⟨kernel, h⟩, shape⟩ := kernel_bellShaped .cubic (by decide : 3 ∈ [1, 2, 3]) pos
  obtain ⟨value, -, slope⟩ := shape kernel h
  refine ⟨by decide, pos, kernel, h, (value 1 zero_le_one).1.mpr one_lt_two,
    (value 2 pos.le).2 le_rfl, (slope 1 zero_le_one).2.1 one_pos one_lt_two⟩

end Kernel

end ParticleMomentum
