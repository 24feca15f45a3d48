import ParticleMomentum.Profiles
import ParticleMomentum.Proofs.Evaluation.Totality
import ParticleMomentum.Proofs.Exact.Terms
import ParticleMomentum.Proofs.Kernels.Shape

/-!
# Two equal particles in exact arithmetic

Two equal particles act on each other by simple formulas, in which the normalisations of the schemes
disappear: the pressure gradient is the same in both, and the shear differs by one factor. The only scheme
that can refuse a sample is Monaghan's, and it refuses all of them or none: the diffusion coefficient does
not depend on the separation.
-/

namespace ParticleMomentum

open Arithmetic

/-! ## Separations -/

namespace Profiles

variable {first last : ℝ} {count : Nat}

/-- Evenly spaced numbers, if there are at least two. -/
theorem evenly_eq (two : 2 ≤ count) :
    evenly first last count =
      (List.range count).map fun k : ℕ => first + k * ((last - first) / (count - 1 : ℕ)) := by
  have single : count ≠ 1 := by omega
  have steps : ((count - 1 : ℕ) : ℝ) ≠ 0 := Nat.cast_ne_zero.mpr (by omega)
  rw [evenly]
  refine List.map_congr_left fun k _ => ?_
  simp only [ofInt_real, Int.cast_natCast, if_neg single]
  split
  · next final =>
    rw [← final, Nat.add_sub_cancel] at steps ⊢
    rw [mul_div_cancel₀ _ steps, add_sub_cancel]
  split <;> ring

/-- Numbers in even steps rise. -/
theorem pairwise_evenly (two : 2 ≤ count) (rises : first < last) :
    (evenly first last count).Pairwise (· < ·) := by
  have step : 0 < (last - first) / (count - 1 : ℕ) :=
    div_pos (sub_pos.mpr rises) (Nat.cast_pos.mpr (by omega))
  rw [evenly_eq two, List.pairwise_map]
  refine List.pairwise_lt_range.imp fun below => ?_
  have farther := mul_lt_mul_of_pos_right (Nat.cast_lt (α := ℝ).mpr below) step
  linarith

theorem length_evenly : (evenly first last count).length = count := by
  rw [evenly, List.length_map, List.length_range]

theorem head_evenly (two : 2 ≤ count) : (evenly first last count).head? = some first := by
  obtain ⟨n, rfl⟩ : ∃ n, count = n + 2 := ⟨count - 2, by omega⟩
  rw [evenly_eq two, List.range_succ_eq_map, List.map_cons, List.head?_cons, Nat.cast_zero, zero_mul,
    add_zero]

theorem getLast_evenly (two : 2 ≤ count) : (evenly first last count).getLast? = some last := by
  obtain ⟨n, rfl⟩ : ∃ n, count = n + 2 := ⟨count - 2, by omega⟩
  rw [evenly, List.range_succ, List.map_append, List.map_singleton, List.getLast?_concat]
  simp

/-- Numbers between two positive ones are positive. -/
theorem pos_of_mem_evenly (first_pos : 0 < first) (rises : first < last) :
    ∀ x ∈ evenly first last count, 0 < x := by
  intro x hmem
  rw [evenly, List.mem_map] at hmem
  obtain ⟨k, -, rfl⟩ := hmem
  have way : 0 < last - first := sub_pos.mpr rises
  have place : (0 : ℝ) ≤ k := Nat.cast_nonneg k
  have steps : (0 : ℝ) ≤ (count - 1 : ℕ) := Nat.cast_nonneg _
  simp only [ofInt_real, Int.cast_natCast]
  split
  · positivity
  split
  · exact first_pos.trans rises
  split <;> positivity

end Profiles

/-! ## Samples -/

namespace ProfileState

variable (s : ProfileState ℝ)

noncomputable def diffusion : ℝ := 5 * max s.viscosity 0 / 3 - max s.bulkViscosity 0

/-- The viscosity of two equal particles as a scheme takes it for the shear. -/
noncomputable def shearFactor : Scheme → ℝ
  | .monaghan => s.diffusion
  | .adami => 2 * max s.viscosity 0

/-- The size of the pressure gradient, where the kernel has a slope. -/
noncomputable def pressureSize (slope : ℝ) : ℝ := |2 * s.mass * s.pressure * slope / s.density ^ 2|

/-- The size of the shear over a distance, where the kernel has a slope. -/
noncomputable def shearSize (scheme : Scheme) (distance slope : ℝ) : ℝ :=
  |s.mass * s.shearFactor scheme * s.speed * slope / (s.density ^ 2 * distance)|

end ProfileState

namespace Profiles

/-- The length of a multiple of a vector along the second axis. -/
theorem norm_across (c x : ℝ) : (c • (⟨0, x, 0⟩ : Vector3 ℝ)).norm = |c * x| := by
  have square : (c • (⟨0, x, 0⟩ : Vector3 ℝ)).squaredNorm = c * x * (c * x) := by
    rw [Vector3.squaredNorm, Vector3.dot_eq]
    simp
  rw [Vector3.norm, square]
  exact Real.sqrt_mul_self_eq_abs _

/-- The length of a multiple of the direction of a pair. -/
theorem norm_along (c : ℝ) : (c • (direction : Vector3 ℝ)).norm = |c| := by
  have square : (c • (direction : Vector3 ℝ)).squaredNorm = c * c := by
    rw [Vector3.squaredNorm, Vector3.dot_eq, direction]
    simp [one_literal, zero_literal]
  rw [Vector3.norm, square]
  exact Real.sqrt_mul_self_eq_abs _

theorem sizeOnI_lift_bind {β : Type} {r : Except (Fault ℝ) β} {b : β} (h : r = .ok b)
    (f : β → Deposits ℝ Unit) : sizeOnI (liftM r >>= f) = sizeOnI (f b) := by
  rw [h]
  rfl

theorem sizeOnI_onSides (onI onJ : Vector3 ℝ) :
    sizeOnI (Deposits.onSides onlyI onI onJ) = .ok onI.norm := by
  have received : (Deposits.onSides onlyI onI onJ).applyTo (Sides.both Vector3.zero) = ⟨0 + onI, 0⟩ := rfl
  rw [sizeOnI, received, zero_add]
  rfl

variable {s : ProfileState ℝ} {slope : ℝ}

noncomputable def coefficient (scheme : Scheme) (s : ProfileState ℝ) (slope : ℝ) : ℝ :=
  match scheme with
  | .monaghan => slope * s.mass
  | .adami => 2 * s.mass * slope / s.density ^ 2

theorem coefficients_eq (scheme : Scheme) (density : s.density ≠ 0) (mass : s.mass ≠ 0) (slope : ℝ) :
    scheme.coefficients (Sides.both s.density) (Sides.both s.mass) (Sides.both slope) =
      .ok (Sides.both (coefficient scheme s slope)) := by
  cases scheme with
  | monaghan => rfl
  | adami =>
      simp only [Scheme.coefficients, Adami.coefficients, Sides.both, quotient_real density,
        quotient_real mass]
      refine congrArg (fun c => Except.ok (Sides.both c)) ?_
      rw [coefficient]
      field_simp
      ring

/-- Both schemes deposit a factor of the state along the pair, scaled by the coefficient. -/
theorem pressure_of_factor {scheme : Scheme} {state : Except (Fault ℝ) ℝ} {factor : ℝ}
    (form : scheme.pressureGradient (Sides.both s.density) (Sides.both s.pressure)
      (Sides.both (coefficient scheme s slope)) direction onlyI = (do
        let factor ← state
        Deposits.onSides onlyI (direction.scale (-coefficient scheme s slope * factor))
          (direction.scale (coefficient scheme s slope * factor))))
    (found : state = .ok factor)
    (balance : coefficient scheme s slope * factor =
      2 * s.mass * s.pressure * slope / s.density ^ 2) :
    sizeOnI (scheme.pressureGradient (Sides.both s.density) (Sides.both s.pressure)
      (Sides.both (coefficient scheme s slope)) direction onlyI) = .ok (s.pressureSize slope) := by
  rw [form, sizeOnI_lift_bind found, sizeOnI_onSides, Vector3.scale_eq, norm_along, neg_mul, abs_neg,
    balance]
  rfl

/-- The pressure gradient is the same in both schemes. -/
theorem pressure_eq (scheme : Scheme) (density : s.density ≠ 0) :
    sizeOnI (scheme.pressureGradient (Sides.both s.density) (Sides.both s.pressure)
      (Sides.both (coefficient scheme s slope)) direction onlyI) = .ok (s.pressureSize slope) := by
  cases scheme with
  | monaghan =>
      have square : s.density * s.density ≠ 0 := mul_self_ne_zero.mpr density
      have factor : Monaghan.pressureFactor (Sides.both s.density) (Sides.both s.pressure) =
          .ok (2 * s.pressure / s.density ^ 2) := by
        simp only [Monaghan.pressureFactor, Sides.both, quotient_real square]
        refine congrArg Except.ok ?_
        ring
      refine pressure_of_factor rfl factor ?_
      rw [coefficient]
      ring
  | adami =>
      have sum : s.density + s.density ≠ 0 := by
        rw [← two_mul]
        exact mul_ne_zero two_ne_zero density
      have factor : Adami.pressureFactor (Sides.both s.density) (Sides.both s.pressure) =
          .ok s.pressure := by
        rw [Adami.pressureFactor, Sides.both, Sides.both, quotient_real sum, ← add_mul,
          mul_div_cancel_left₀ _ sum]
      refine pressure_of_factor rfl factor ?_
      rw [coefficient]
      ring

/-! ### Shear -/

/-- The harmonic mean of equal numbers is the number itself, where it is positive. -/
theorem harmonicMean_both (x : ℝ) : Equation.harmonicMean (Sides.both x) = max x 0 := by
  rw [Equation.harmonicMean, Sides.both]
  by_cases positive : 0 < x
  · rw [if_pos ⟨positive, positive⟩, max_eq_left positive.le]
    field_simp
    ring
  · rw [if_neg fun both => positive both.1, max_eq_right (not_lt.mp positive)]

theorem shearCoefficients_eq (k : ℝ) (s : ProfileState ℝ) :
    ∃ convection, Monaghan.shearCoefficients k (Sides.both s.viscosity) (Sides.both s.bulkViscosity) =
      .ok ⟨convection, s.diffusion⟩ := by
  obtain ⟨shear, found⟩ :=
    Monaghan.exists_shearCoefficients k (Sides.both s.viscosity) (Sides.both s.bulkViscosity)
  have computed := found
  simp only [Monaghan.shearCoefficients, bind_eq_ok_iff, pure_eq_ok_iff] at computed
  obtain ⟨scaled, hscaled, bulk, hbulk, rfl⟩ := computed
  have diffusion : 5.0 * scaled - bulk = s.diffusion := by
    rw [Monaghan.combined_eq_ok hscaled, Monaghan.combinedBulk_eq_ok hbulk, harmonicMean_both,
      harmonicMean_both, three_literal, five_literal, ProfileState.diffusion, mul_div_assoc]
  exact ⟨_, diffusion ▸ found⟩

/-- The velocities of both particles: the first one moves across the pair. -/
noncomputable def velocity (s : ProfileState ℝ) : Sides (Vector3 ℝ) :=
  ⟨⟨0.0, s.speed, 0.0⟩, Vector3.zero⟩

theorem relativeVelocity_eq (s : ProfileState ℝ) :
    (velocity s).i - (velocity s).j = ⟨0, s.speed, 0⟩ := by
  rw [velocity, Vector3.zero_eq, sub_zero, zero_literal]

/-- The report of a negative diffusion coefficient of two equal particles. -/
noncomputable def refusal (s : ProfileState ℝ) : NegativeDiffusion ℝ :=
  ⟨s.diffusion, Sides.both s.viscosity, Sides.both s.bulkViscosity⟩

theorem shear_refused (k distance : ℝ) (c : Sides ℝ) (negative : s.diffusion < 0) :
    sizeOnI (Scheme.shearForces .monaghan .extended (Sides.both s.density) (velocity s) k
      (Sides.both s.viscosity) (Sides.both s.bulkViscosity) distance c direction onlyI) =
      .error (.negativeDiffusion (refusal s)) := by
  obtain ⟨convection, found⟩ := shearCoefficients_eq k s
  refine (sizeOnI_lift_bind found _).trans ?_
  rw [if_pos (by rwa [zero_literal])]
  rfl

/-- Both particles see no convection, as neither moves along the pair. -/
theorem shear_monaghan (k : ℝ) {distance : ℝ} (density : s.density ≠ 0) (apart : distance ≠ 0)
    (nonneg : 0 ≤ s.diffusion) :
    sizeOnI (Scheme.shearForces .monaghan .extended (Sides.both s.density) (velocity s) k
      (Sides.both s.viscosity) (Sides.both s.bulkViscosity) distance
      (Sides.both (coefficient .monaghan s slope)) direction onlyI) =
      .ok (s.shearSize .monaghan distance slope) := by
  obtain ⟨convection, found⟩ := shearCoefficients_eq k s
  refine (sizeOnI_lift_bind found _).trans ?_
  rw [if_neg (by rw [zero_literal]; exact nonneg.not_gt), relativeVelocity_eq]
  have divisor : s.density * s.density * distance ≠ 0 :=
    mul_ne_zero (mul_self_ne_zero.mpr density) apart
  have across : (⟨0, s.speed, 0⟩ : Vector3 ℝ).dot direction = 0 := by
    simp [Vector3.dot_eq, direction, zero_literal]
  let amount := slope * s.mass * (s.diffusion * (1 / (s.density * s.density * distance)))
  have parts : Monaghan.shearParts (slope * s.mass) ⟨convection, s.diffusion⟩ (Sides.both s.density)
      distance ⟨0, s.speed, 0⟩ direction = .ok (amount • ⟨0, s.speed, 0⟩, 0) := by
    simp only [Monaghan.shearParts, Sides.both, quotient_real divisor, across, one_literal]
    refine congrArg (fun v => Except.ok (amount • (⟨0, s.speed, 0⟩ : Vector3 ℝ), v)) ?_
    simp
  have deposited (other : Deposits ℝ Unit) :
      sizeOnI (Trail.guarded true (Monaghan.shearOn .i (slope * s.mass) ⟨convection, s.diffusion⟩
        (Sides.both s.density) distance ⟨0, s.speed, 0⟩ direction) >>= fun _ =>
          Trail.guarded false other) =
        .ok (0 + amount • (⟨0, s.speed, 0⟩ : Vector3 ℝ) + 0).norm := by
    rw [Monaghan.shearOn, parts]
    rfl
  refine (deposited _).trans ?_
  rw [zero_add, add_zero, norm_across, ProfileState.shearSize]
  refine congrArg (fun x => Except.ok |x|) ?_
  simp only [amount, ProfileState.shearFactor]
  ring

/-- Where the viscosity is not positive there is no shear. -/
theorem shear_adami (k distance : ℝ) :
    sizeOnI (Scheme.shearForces .adami .extended (Sides.both s.density) (velocity s) k
      (Sides.both s.viscosity) (Sides.both s.bulkViscosity) distance
      (Sides.both (coefficient .adami s slope)) direction onlyI) =
      .ok (s.shearSize .adami distance slope) := by
  rw [Scheme.shearForces, Adami.shearForces]
  by_cases viscous : Adami.isViscous (Sides.both s.viscosity) = true
  · obtain ⟨mean, found⟩ : ∃ mean, Adami.meanViscosity (Sides.both s.viscosity) = .ok mean :=
      Adami.exists_meanViscosity
    have value : mean = max s.viscosity 0 := by
      rw [Adami.meanViscosity_eq_ok found, harmonicMean_both]
    rw [if_pos viscous]
    refine (sizeOnI_lift_bind found _).trans ((sizeOnI_lift_bind rfl _).trans ?_)
    rw [sizeOnI_onSides, relativeVelocity_eq, Vector3.scale_eq, norm_across, ProfileState.shearSize]
    refine congrArg (fun x => Except.ok |x|) ?_
    simp only [Sides.both, coefficient, ProfileState.shearFactor, value]
    ring
  · have value : max s.viscosity 0 = 0 := by
      rw [← harmonicMean_both, Adami.harmonicMean_eq_zero (Bool.not_eq_true _ ▸ viscous)]
    have nothing : s.shearSize .adami distance slope = (⟨0, 0, 0⟩ : Vector3 ℝ).norm := by
      simp [ProfileState.shearSize, ProfileState.shearFactor, value, Vector3.norm, Vector3.squaredNorm,
        Vector3.dot_eq]
    rw [if_neg viscous, nothing, ← zero_literal]
    rfl

/-! ### Both terms -/

/-- A sample of two equal particles is refused by the Monaghan scheme if the diffusion coefficient is
negative. Otherwise it is given by the formulas. -/
theorem sample_eq (scheme : Scheme) (kernel : Kernel ℝ) (density : s.density ≠ 0) (mass : s.mass ≠ 0)
    {distance : ℝ} (apart : distance ≠ 0) (slope : ℝ) :
    sample scheme kernel s distance slope =
      if scheme = .monaghan ∧ s.diffusion < 0 then .error (.negativeDiffusion (refusal s))
      else .ok (s.pressureSize slope, s.shearSize scheme distance slope) := by
  have sampled : sample scheme kernel s distance slope = do
      let shear ← sizeOnI (scheme.shearForces .extended (Sides.both s.density) (velocity s)
        kernel.convectionFactor (Sides.both s.viscosity) (Sides.both s.bulkViscosity) distance
        (Sides.both (coefficient scheme s slope)) direction onlyI)
      return (s.pressureSize slope, shear) := by
    simp only [sample, coefficients_eq scheme density mass]
    change (sizeOnI (scheme.pressureGradient _ _ (Sides.both (coefficient scheme s slope)) _ _) >>= _) = _
    rw [pressure_eq scheme density]
    rfl
  rw [sampled]
  cases scheme with
  | monaghan =>
      by_cases negative : s.diffusion < 0
      · rw [if_pos ⟨rfl, negative⟩, shear_refused _ _ _ negative]
        rfl
      · rw [if_neg fun both => negative both.2, shear_monaghan _ density apart (not_lt.mp negative)]
        rfl
  | adami =>
      rw [if_neg (by simp), shear_adami]
      rfl

end Profiles

end ParticleMomentum
