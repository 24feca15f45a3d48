import ParticleMomentum.Proofs.Exact.Settings
import ParticleMomentum.Proofs.Kernels

/-!
# Kernels in exact arithmetic

A kernel that was created has a positive support radius, smoothing length and normalization. Its slope is
negative strictly inside the support, and zero where the support ends.
-/

namespace ParticleMomentum

open Arithmetic

/-! ## Profiles -/

namespace Spline

variable {q : ℝ} (sampling : Sampling)

/-- The support radius in smoothing lengths, as a real number. -/
theorem supportRatio_pos (spline : Spline) : (0 : ℝ) < spline.supportRatio := by
  cases spline
  · change (0 : ℝ) < 2.0
    norm_num
  · change (0 : ℝ) < 3.0
    norm_num

theorem square_real (x : ℝ) : square sampling x = x ^ 2 := by
  cases sampling
  · rfl
  · exact (pow_two x).symm

theorem profileSlope_cubic :
    profileSlope .cubic sampling q = -(3 / 4) * max (2 - q) 0 ^ 2 + 3 * max (1 - q) 0 ^ 2 := by
  simp only [profileSlope, square_real, positivePart_real]
  norm_num

theorem profileSlope_quintic :
    profileSlope .quintic sampling q =
      -5 * max (3 - q) 0 ^ 4 + 30 * max (2 - q) 0 ^ 4 - 75 * max (1 - q) 0 ^ 4 := by
  simp only [profileSlope, power_real, positivePart_real]
  norm_num

theorem profileSlope_cubic_neg (pos : 0 < q) (inside : q < 2) :
    profileSlope .cubic sampling q < 0 := by
  rw [profileSlope_cubic, max_eq_left (by linarith)]
  rcases le_total 1 q with h | h
  · rw [max_eq_right (by linarith)]
    have : 0 < (2 - q) ^ 2 := pow_pos (by linarith) 2
    linarith
  · rw [max_eq_left (by linarith)]
    nlinarith

theorem profileSlope_quintic_neg (pos : 0 < q) (inside : q < 3) :
    profileSlope .quintic sampling q < 0 := by
  rw [profileSlope_quintic, max_eq_left (by linarith)]
  rcases le_total 2 q with h | h
  · rw [max_eq_right (by linarith), max_eq_right (by linarith)]
    have : 0 < (3 - q) ^ 4 := pow_pos (by linarith) 4
    linarith
  rcases le_total 1 q with h' | h'
  · rw [max_eq_left (by linarith), max_eq_right (by linarith)]
    -- the outer piece is more than twice as wide as the middle one
    have wider : (2 * (2 - q)) ^ 4 ≤ (3 - q) ^ 4 := pow_le_pow_left₀ (by linarith) (by linarith) 4
    have : 0 < (3 - q) ^ 4 := pow_pos (by linarith) 4
    nlinarith
  · rw [max_eq_left (by linarith), max_eq_left (by linarith)]
    have factored : -5 * (3 - q) ^ 4 + 30 * (2 - q) ^ 4 - 75 * (1 - q) ^ 4 =
        -(10 * q) * (5 + 9 * (1 - q) + 3 * (1 - q) ^ 2 - 5 * (1 - q) ^ 3) := by ring
    have cube : (1 - q) ^ 3 ≤ 1 - q := pow_le_of_le_one (by linarith) (by linarith) (by norm_num)
    have cofactor : 0 < 5 + 9 * (1 - q) + 3 * (1 - q) ^ 2 - 5 * (1 - q) ^ 3 := by
      nlinarith [sq_nonneg (1 - q)]
    rw [factored]
    exact mul_neg_of_neg_of_pos (by linarith) cofactor

/-- Strictly inside the support a profile falls. -/
theorem profileSlope_neg {spline : Spline} (pos : 0 < q) (inside : q < spline.supportRatio) :
    spline.profileSlope sampling q < 0 := by
  cases spline with
  | cubic =>
      norm_num [supportRatio] at inside
      exact profileSlope_cubic_neg sampling pos inside
  | quintic =>
      norm_num [supportRatio] at inside
      exact profileSlope_quintic_neg sampling pos inside

/-- Where the support ends, and beyond, a profile is flat: all its powers are cut off. -/
theorem profileSlope_of_le {spline : Spline} (outside : spline.supportRatio ≤ q) :
    spline.profileSlope sampling q = 0 := by
  cases spline with
  | cubic =>
      norm_num [supportRatio] at outside
      rw [profileSlope_cubic, max_eq_right (by linarith), max_eq_right (by linarith)]
      norm_num
  | quintic =>
      norm_num [supportRatio] at outside
      rw [profileSlope_quintic, max_eq_right (by linarith), max_eq_right (by linarith),
        max_eq_right (by linarith)]
      norm_num

theorem normalization_pos {spline : Spline} {dimension : Nat} {h c : ℝ} (pos : 0 < h)
    (hc : spline.normalization dimension h = .ok c) : 0 < c := by
  have hpi := Real.pi_pos
  cases spline
  all_goals
    simp only [normalization, boundedPower_real] at hc
    split at hc
    · rw [(quotient_real_eq_ok_iff.mp hc).2]
      positivity
    split at hc
    · rw [(quotient_real_eq_ok_iff.mp hc).2]
      simp only [pi_real]
      positivity
    · rw [(quotient_real_eq_ok_iff.mp hc).2]
      simp only [pi_real]
      positivity

/-- A profile can be normalized to every positive smoothing length. -/
theorem exists_normalization (spline : Spline) (dimension : Nat) {h : ℝ} (pos : 0 < h) :
    ∃ c, (spline.normalization dimension h : Except (Fault ℝ) ℝ) = .ok c := by
  have hpi : (0 : ℝ) < pi := Real.pi_pos
  cases spline
  all_goals
    simp only [normalization, boundedPower_real]
    split
    · exact exists_quotient (by positivity)
    split
    · exact exists_quotient (by positivity)
    · exact exists_quotient (by positivity)

end Spline

/-! ## Kernels -/

namespace Kernel

variable {spline : Spline} {config : Setting ℝ} {kernel : Kernel ℝ} {sampling : Sampling}

/-- A kernel that can be evaluated: what a setup derives is positive and fits together. -/
structure Sound (kernel : Kernel ℝ) : Prop where
  ready : kernel.ready = true
  radius_pos : 0 < kernel.supportRadius
  length_eq : kernel.smoothingLength = kernel.supportRadius / kernel.spline.supportRatio
  normalization_pos : 0 < kernel.normalization

/-- What passes the check of the radius is positive. -/
theorem value_pos_of_not_atMost {x : Setting.Number ℝ} (h : x.atMost (.whole 0) = false) :
    0 < x.value := by
  have above : ¬ x.value ≤ (Setting.Number.whole 0 : Setting.Number ℝ).value := by
    rw [← Setting.Number.atMost_iff, h]
    exact Bool.false_ne_true
  exact lt_of_eq_of_lt Int.cast_zero.symm (not_le.mp above)

theorem Derived.radius_pos (h : kernel.Derived) : 0 < kernel.supportRadius := by
  obtain ⟨x, passed, read⟩ := h.radius
  have radius : x.value = kernel.supportRadius := Except.ok.inj (x.toReal_eq.symm.trans read)
  exact radius ▸ value_pos_of_not_atMost passed

/-- Over exact numbers a kernel that is ready is consistent: every positive radius can be normalized. -/
theorem Reachable.selfConsistent (h : kernel.Reachable) (ready : kernel.ready = true) :
    kernel.SelfConsistent := by
  have derived := h.derived ready
  have length : 0 < kernel.smoothingLength := by
    rw [derived.length]
    exact div_pos derived.radius_pos (Spline.supportRatio_pos _)
  refine derived.selfConsistent ?_ (Spline.exists_normalization _ _ length)
  rw [zero_literal]
  exact derived.radius_pos

theorem Reachable.sound (h : kernel.Reachable) (ready : kernel.ready = true) : kernel.Sound := by
  have consistent := h.selfConsistent ready
  have radius := (h.derived ready).radius_pos
  refine ⟨ready, radius, consistent.length, ?_⟩
  refine Spline.normalization_pos ?_ consistent.normalization
  rw [consistent.length]
  exact div_pos radius (Spline.supportRatio_pos _)

/-- A kernel that was created is sound. -/
theorem sound_of_create (h : create spline config = .ok kernel) : kernel.Sound := by
  obtain ⟨reachable, ready⟩ := reachable_of_create h
  exact reachable.sound ready

/-- Settings ask for the radius that they hold, if it is positive. -/
theorem wantedRadius_of_pos {radius : ℝ} (pos : 0 < radius)
    (held : config.lookup "support_radius" = .ok (some (.real radius))) :
    (make spline config).wantedRadius = .ok (.real radius) := by
  have passes : (Setting.Number.real radius).atMost (.whole 0) = false := by
    rw [Bool.eq_false_iff, ne_eq, Setting.Number.atMost_iff, Setting.Number.value,
      Setting.Number.value, Int.cast_zero]
    exact not_le.mpr pos
  rw [wantedRadius, show (make spline config).config = config from rfl, held]
  change (if (Setting.Number.real radius).atMost (.whole 0) then _ else _) = _
  rw [passes, if_neg Bool.false_ne_true]

/-- Settings that ask for a positive radius and an allowed dimension make a kernel with these. -/
theorem exists_create_of_wants {radius : ℝ} {dimension : Nat}
    (wants : (make spline config).Wants radius dimension) :
    ∃ kernel, create spline config = .ok kernel ∧ kernel.spline = spline ∧
      kernel.dimension = dimension ∧ kernel.supportRadius = radius := by
  obtain ⟨x, hx, hr, hd⟩ := wants
  cases x.toReal_eq.symm.trans hr
  have pos := value_pos_of_not_atMost (wantedRadius_checked hx)
  obtain ⟨c, hc⟩ := spline.exists_normalization dimension
    (div_pos pos (Spline.supportRatio_pos spline))
  refine ⟨_, create_eq_ok_iff.mpr ⟨x.value, dimension, c, ⟨x, hx, hr, hd⟩, hc, rfl⟩, rfl, rfl, rfl⟩

namespace Sound

variable (h : kernel.Sound)
include h

theorem length_pos : 0 < kernel.smoothingLength := by
  rw [h.length_eq]
  exact div_pos h.radius_pos (Spline.supportRatio_pos _)

theorem slopeFactor_eq :
    kernel.slopeFactor = .ok (kernel.normalization / kernel.smoothingLength) :=
  quotient_real h.length_pos.ne'

theorem slopeFactor_pos {factor : ℝ} (hf : kernel.slopeFactor = .ok factor) : 0 < factor := by
  rw [h.slopeFactor_eq] at hf
  cases hf
  exact div_pos h.normalization_pos h.length_pos

theorem supportRatio_le_iff {r : ℝ} :
    kernel.spline.supportRatio ≤ r / kernel.smoothingLength ↔ kernel.supportRadius ≤ r := by
  rw [le_div_iff₀ h.length_pos, h.length_eq, mul_div_cancel₀ _ (Spline.supportRatio_pos _).ne']

/-- Strictly inside the support the kernel falls. -/
theorem slope_neg {factor r : ℝ} (hf : kernel.slopeFactor = .ok factor) (pos : 0 < r)
    (inside : r < kernel.supportRadius) : kernel.slopeWith factor sampling r < 0 := by
  refine mul_neg_of_pos_of_neg (h.slopeFactor_pos hf) ?_
  refine Spline.profileSlope_neg sampling (div_pos pos h.length_pos) ?_
  rw [← not_le, h.supportRatio_le_iff, not_le]
  exact inside

/-- Where the support ends, and beyond, the kernel is flat. -/
theorem slope_of_le {factor r : ℝ} (outside : kernel.supportRadius ≤ r) :
    kernel.slopeWith factor sampling r = 0 := by
  rw [slopeWith, Spline.profileSlope_of_le sampling (h.supportRatio_le_iff.mpr outside), mul_zero]

/-- In the support, its end included, the kernel does not rise. -/
theorem slope_nonpos {factor r : ℝ} (hf : kernel.slopeFactor = .ok factor) (pos : 0 < r)
    (inside : r ≤ kernel.supportRadius) : kernel.slopeWith factor sampling r ≤ 0 := by
  rcases inside.lt_or_eq with strictly | rfl
  · exact (h.slope_neg hf pos strictly).le
  · exact (h.slope_of_le le_rfl).le

end Sound

/-- Exactly, slopes do not depend on how separations are sampled. -/
theorem slopeWith_sampling (kernel : Kernel ℝ) (factor r : ℝ) (sampling sampling' : Sampling) :
    kernel.slopeWith factor sampling r = kernel.slopeWith factor sampling' r := by
  simp only [slopeWith, Spline.profileSlope, Spline.square_real]

/-! ## A kernel that is created -/

/-- The settings of a kernel of radius two on a line. -/
def lineSettings : Setting ℝ :=
  .record [("support_radius", .whole 2), ("kernel_space_dim", .whole 1)]

noncomputable def lineKernel : Kernel ℝ :=
  { spline := .cubic
    config := lineSettings
    supportRadius := 2
    dimension := 1
    smoothingLength := 1
    normalization := 2 / 3
    ready := true }

theorem create_lineKernel : create .cubic lineSettings = .ok lineKernel := by
  have radius : (make .cubic lineSettings).wantedRadius = .ok (.whole 2) := rfl
  have dimension : (make .cubic lineSettings).wantedDimension = .ok 1 := rfl
  have value : (Setting.Number.whole 2 : Setting.Number ℝ).value = 2 := Int.cast_ofNat 2
  have length : (2 : ℝ) / Spline.cubic.supportRatio = 1 := by
    rw [Spline.supportRatio]
    norm_num
  have normalization : Spline.cubic.normalization 1
      ((Setting.Number.whole 2 : Setting.Number ℝ).value / Spline.cubic.supportRatio) = .ok (2 / 3) := by
    rw [value, length, Spline.normalization, if_pos rfl, mul_one, quotient_real (by norm_num)]
    norm_num
  have wants : (make .cubic lineSettings).Wants (Setting.Number.whole 2 : Setting.Number ℝ).value 1 :=
    ⟨_, radius, Setting.Number.toReal_eq _, dimension⟩
  refine create_eq_ok_iff.mpr ⟨_, _, _, wants, normalization, ?_⟩
  rw [value, length]
  rfl

end Kernel

end ParticleMomentum
