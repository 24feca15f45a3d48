import ParticleMomentum.Proofs.Evaluation.Conservation
import ParticleMomentum.Proofs.Evaluation.Plans
import ParticleMomentum.Proofs.Evaluation.PressureDirection

/-!
# Dissipation by shear

The shear forces take kinetic energy out of the particles and never give any back. For one pair the power
of the shear is the coefficient of the pair, which has the sign of the kernel's slope, times a quadratic
form in the relative velocity. The form is not negative: a mean viscosity never is, the diffusion
coefficient has been checked, and the convection coefficient is a sum of means. This is what the check of
diffusion coefficients is for.
-/

namespace ParticleMomentum

variable {n : Nat} {scheme : Scheme} {plan : Plan ℝ}

/-- The kernel does not rise from one particle of a found pair to the other. -/
theorem PairRow.Faithful.slope_nonpos {kernel : Kernel ℝ} {positions : Vector (Vector3 ℝ) n}
    {row : PairRow n ℝ} (h : row.Faithful kernel positions) : row.slope.i ≤ 0 := by
  rcases h.distance_le.lt_or_eq with inside | atEnd
  · exact (h.slope_neg inside).le
  · exact (h.slope_end atEnd).le

namespace Equation

variable {p : Sides (Particle ℝ)} {row : PairRow n ℝ}

/-! ## One pair -/

theorem harmonicMean_nonneg (x : Sides ℝ) : 0 ≤ harmonicMean x := by
  rw [harmonicMean]
  split
  · next h =>
    obtain ⟨hi, hj⟩ := h
    positivity
  · exact le_rfl

noncomputable def diffusion (p : Sides (Particle ℝ)) : ℝ :=
  5 * (harmonicMean (p.map (·.viscosity)) / 3) - harmonicMean (p.map (·.bulkViscosity))

/-- The shear does not point against the relative velocity. -/
theorem relativeVelocity_dot_shearVector_nonneg (hi : p.i.Material) (hj : p.j.Material)
    (apart : 0 < row.distance) (convection : 0 ≤ plan.convectionFactor)
    (diffuses : scheme = .monaghan → 0 ≤ diffusion p) :
    0 ≤ (relativeVelocity p).dot (shearVector scheme plan p row) := by
  have square : 0 ≤ (relativeVelocity p).dot (relativeVelocity p) :=
    (relativeVelocity p).squaredNorm_nonneg
  have viscosity := harmonicMean_nonneg (p.map (·.viscosity))
  cases scheme with
  | monaghan =>
      have bulk := harmonicMean_nonneg (p.map (·.bulkViscosity))
      have densities := mul_pos hi.density_pos hj.density_pos
      have inverse : 0 ≤ 1 / (p.i.density * p.j.density * row.distance) := by positivity
      have along : 0 ≤ (relativeVelocity p).dot row.direction * (relativeVelocity p).dot row.direction :=
        mul_self_nonneg _
      have alongVelocity := mul_nonneg (mul_nonneg (diffuses rfl) inverse) square
      have alongPair := mul_nonneg (mul_nonneg (mul_nonneg convection
        (add_nonneg bulk (div_nonneg viscosity zero_le_three))) inverse) along
      rw [shearVector, Vector3.dot_add, Vector3.dot_smul, Vector3.dot_smul]
      refine (add_nonneg alongVelocity alongPair).trans_eq ?_
      rw [diffusion]
      ring
  | adami =>
      rw [shearVector, Vector3.dot_smul]
      exact mul_nonneg (div_nonneg viscosity apart.le) square

/-- Without pressure and transport a pair is driven by its shear alone. -/
theorem flux_eq_shearVector (hi : p.i.Material) (hj : p.j.Material)
    (unloaded : p.i.pressure = 0 ∧ p.j.pressure = 0) (still : plan.transport = false) :
    flux scheme plan p row = shearVector scheme plan p row := by
  have factor : pressureFactor scheme p = 0 :=
    (pressureFactor_eq_zero_iff scheme hi hj unloaded.1.ge unloaded.2.ge).mpr unloaded
  rw [flux, factor, still, zero_smul, neg_zero, zero_add, if_neg Bool.false_ne_true, add_zero]

/-- The power of a pair: what its sides add to the rate of the kinetic energy. -/
noncomputable def power (scheme : Scheme) (plan : Plan ℝ) (p : Sides (Particle ℝ))
    (row : PairRow n ℝ) : ℝ :=
  p.i.mass * p.i.velocity.dot (acceleration scheme plan p row .i) +
    p.j.mass * p.j.velocity.dot (acceleration scheme plan p row .j)

/-- The power of a pair is the power of its flux at the relative velocity. -/
theorem power_eq (hi : p.i.Material) (hj : p.j.Material) (slopes : row.slope.i = row.slope.j) :
    power scheme plan p row = p.i.mass * (coefficient scheme p row).i *
      (relativeVelocity p).dot (flux scheme plan p row) := by
  have balance : p.i.mass * (coefficient scheme p row).i = p.j.mass * (coefficient scheme p row).j :=
    mass_mul_coefficient slopes fun _ => ⟨hi.mass_pos.ne', hj.mass_pos.ne'⟩
  rw [power, acceleration_i, acceleration_j, ← neg_smul, Vector3.dot_smul, Vector3.dot_smul,
    relativeVelocity, Vector3.sub_dot]
  linear_combination p.j.velocity.dot (flux scheme plan p row) * balance

/-- The shear of a found pair takes kinetic energy out of its particles. -/
theorem power_nonpos {kernel : Kernel ℝ} {positions : Vector (Vector3 ℝ) n}
    (faithful : row.Faithful kernel positions) (hi : p.i.Material) (hj : p.j.Material)
    (unloaded : p.i.pressure = 0 ∧ p.j.pressure = 0) (still : plan.transport = false)
    (convection : 0 ≤ plan.convectionFactor)
    (diffuses : scheme = .monaghan → 0 ≤ diffusion p) : power scheme plan p row ≤ 0 := by
  obtain ⟨k, ki, -, hc⟩ := exists_coefficient scheme row hi hj
  have coefficient_nonpos : (coefficient scheme p row).i ≤ 0 := by
    rw [hc]
    exact mul_nonpos_of_nonpos_of_nonneg faithful.slope_nonpos ki.le
  rw [power_eq hi hj faithful.slope_eq, flux_eq_shearVector hi hj unloaded still]
  exact mul_nonpos_of_nonpos_of_nonneg
    (mul_nonpos_of_nonneg_of_nonpos hi.mass_pos.le coefficient_nonpos)
    (relativeVelocity_dot_shearVector_nonneg hi hj faithful.distance_pos convection diffuses)

end Equation

/-- The sum of mass times velocity times acceleration over all particles: the rate of the kinetic
energy. -/
noncomputable def Ensemble.power (e : Ensemble n ℝ) : ℝ :=
  ∑ k : Fin n, e.particles[k].mass * e.particles[k].velocity.dot e.particles[k].acceleration

theorem Kernel.convectionFactor_nonneg (kernel : Kernel ℝ) : 0 ≤ kernel.convectionFactor := by
  rw [convectionFactor, Arithmetic.ofInt_real]
  positivity

namespace Evaluator

variable {ev : Evaluator ℝ} {e : Ensemble n ℝ} {rows : List (PairRow n ℝ)}
variable {modified : Sides (Option (List ℝ))} {inputs : List (PairInput n ℝ)}

/-- An evaluation that completes adds the power of each pair. -/
theorem Completes.power (h : ev.Completes (FormulationClass.ofScheme scheme) plan rows modified e inputs)
    (owned : ∀ k : Fin n, e.particles[k].owned = true) :
    (ev.evaluate (FormulationClass.ofScheme scheme) rows modified e).2.power =
      e.power + ∑ p, Equation.power scheme plan (e.sides (rows.get p)) (rows.get p) :=
  h.sum_acceleration owned (fun q => q.velocity.dotHom q.mass) fun _ _ => rfl

/-- The check reports the diffusion coefficient of a pair if it is negative. -/
theorem negativeDiffusion?_real (k : ℝ) (p : Sides (Particle ℝ)) :
    negativeDiffusion? k p = .ok (if Equation.diffusion p < 0 then
      some ⟨Equation.diffusion p, p.map (·.viscosity), p.map (·.bulkViscosity)⟩ else none) := by
  obtain ⟨shear, hs⟩ :=
    Monaghan.exists_shearCoefficients k (p.map (·.viscosity)) (p.map (·.bulkViscosity))
  have coefficient : shear.diffusion = Equation.diffusion p := by
    simp only [Monaghan.shearCoefficients, bind_eq_ok_iff, pure_eq_ok_iff] at hs
    obtain ⟨scaled, hscaled, bulk, hbulk, rfl⟩ := hs
    rw [Monaghan.combined_eq_ok hscaled, Monaghan.combinedBulk_eq_ok hbulk, Arithmetic.three_literal,
      Arithmetic.five_literal]
    rfl
  simp only [negativeDiffusion?, hs, ← coefficient, Arithmetic.zero_literal]
  rfl

theorem negativeDiffusion?_eq_none_iff {k : ℝ} {p : Sides (Particle ℝ)} :
    negativeDiffusion? k p = .ok none ↔ 0 ≤ Equation.diffusion p := by
  rw [negativeDiffusion?_real, Except.ok.injEq, ite_eq_right_iff, ← not_lt]
  constructor
  · intro h negative
    cases h negative
  · intro h negative
    exact absurd negative h

/-- A pair that passes the check does not have a negative diffusion coefficient. -/
theorem Completes.diffusion_nonneg
    (h : ev.Completes (FormulationClass.ofScheme .monaghan) plan rows modified e inputs)
    {row : PairRow n ℝ} (hmem : row ∈ rows) : 0 ≤ Equation.diffusion (e.sides row) :=
  negativeDiffusion?_eq_none_iff.mp (checkDiffusion_result_eq_ok_iff.mp h.check rfl row hmem)

/-- Shear only dissipates. Where the pairs have been found by a kernel, all particles are owned and have
positive masses and densities but no pressure, and transport velocities are not corrected for, an
evaluation that completes does not raise the rate of the kinetic energy, whatever the velocities and the
viscosities are. The evaluator may have been set up with another kernel. -/
theorem shear_dissipates (spline : Spline) (config : Setting ℝ) (kernel : Kernel ℝ)
    (created : Kernel.create spline config = .ok kernel) (positions : Vector (Vector3 ℝ) n)
    (rows : List (PairRow n ℝ)) (found : (Neighbours.find kernel positions).result = .ok rows)
    (unset : Evaluator ℝ) (formulation : Formulation ℝ) (scheme : Scheme)
    (kind : formulation.kind = FormulationClass.ofScheme scheme) (other : Kernel ℝ) (plan : Plan ℝ)
    (planned : Plan.ofSettings unset.config formulation other = .ok plan)
    (still : plan.transport = false) (modified : Sides (Option (List ℝ))) (e : Ensemble n ℝ)
    (owned : ∀ k : Fin n, e.particles[k].owned = true)
    (materials : ∀ k : Fin n, e.particles[k].Material)
    (unloaded : ∀ k : Fin n, e.particles[k].pressure = 0)
    (completes : ((unset.setup formulation other).1.evaluate formulation.kind rows modified
      e).1.result = .ok ()) :
    ((unset.setup formulation other).1.evaluate formulation.kind rows modified e).2.power ≤
      e.power := by
  have ready : (unset.setup formulation other).1.plan = some plan := by
    rw [setup_of_ofSettings planned]
  have convection : 0 ≤ plan.convectionFactor := by
    rw [(Plan.ReadFrom.of_ofSettings planned).convectionFactor]
    exact other.convectionFactor_nonneg
  rw [kind] at completes ⊢
  obtain ⟨inputs, h⟩ := completes_of_evaluate_eq_ok ready completes
  rw [h.power owned]
  refine add_le_of_nonpos_right (Finset.sum_nonpos fun p _ => ?_)
  have faithful := Neighbours.faithful_of_mem_rows (Kernel.sound_of_create created) found
    (List.get_mem rows p)
  refine Equation.power_nonpos faithful (materials _) (materials _) ⟨unloaded _, unloaded _⟩ still
    convection ?_
  rintro rfl
  exact h.diffusion_nonneg (List.get_mem rows p)

/-! ## Two particles that slide along each other -/

/-- A viscous particle of unit mass and density, at rest or not. -/
noncomputable def slidingParticle (x : ℝ) : Particle ℝ :=
  { (Particle.fresh : Particle ℝ) with
    position := ⟨x, 0, 0⟩, velocity := ⟨0, x, 0⟩, viscosity := 1 }

noncomputable def slidingPair : Ensemble 2 ℝ :=
  ⟨Vector.ofFn fun k : Fin 2 => slidingParticle k.val⟩

theorem slidingPair_particle (k : Fin 2) : slidingPair.particles[k] = slidingParticle k.val :=
  Vector.getElem_ofFn _

theorem slidingPair_material (k : Fin 2) : slidingPair.particles[k].Material := by
  have one : (0 : ℝ) < 1.0 := by norm_num
  rw [slidingPair_particle]
  exact ⟨one, one⟩

theorem slidingPair_owned (k : Fin 2) : slidingPair.particles[k].owned = true := by
  rw [slidingPair_particle]
  rfl

theorem slidingPair_unloaded (k : Fin 2) : slidingPair.particles[k].pressure = 0 := by
  rw [slidingPair_particle]
  exact Arithmetic.zero_literal

/-- An evaluator of the usual modes, set up for the Adami scheme on a line. -/
noncomputable def lineEvaluator : Evaluator ℝ :=
  ((make (.record []) .strict).setup (.create .adami .null) Kernel.lineKernel).1

theorem shear_dissipates_slidingPair :
    ∃ rows, (Neighbours.find Kernel.lineKernel slidingPair.positions).result = .ok rows ∧
      (lineEvaluator.evaluate .adami rows ⟨none, none⟩ slidingPair).1.result = .ok () ∧
      (lineEvaluator.evaluate .adami rows ⟨none, none⟩ slidingPair).2.power ≤ slidingPair.power := by
  have sound := Kernel.sound_of_create Kernel.create_lineKernel
  obtain ⟨rows, found⟩ := Neighbours.find_ends sound slidingPair.positions
  let plan : Plan ℝ := ⟨.off, false, .fused, Kernel.lineKernel.convectionFactor⟩
  have planned : Plan.ofSettings (.record []) (.create .adami .null) Kernel.lineKernel = .ok plan := rfl
  have apart : ∀ row ∈ rows, row.distance ≠ 0 := fun row hmem =>
    (Neighbours.faithful_of_mem_rows sound found hmem).distance_pos.ne'
  obtain ⟨inputs, fits⟩ : ∃ inputs, Evaluator.inputs rows ⟨none, none⟩ = .ok inputs := by
    simp [Evaluator.inputs]
  have completes : (lineEvaluator.evaluate .adami rows ⟨none, none⟩ slidingPair).1.result = .ok () := by
    have h : lineEvaluator.Completes (FormulationClass.ofScheme .adami) plan rows ⟨none, none⟩
        slidingPair inputs :=
      completes_of_material rfl slidingPair_material apart fits
        (checkDiffusion_result_eq_ok_iff.mpr fun monaghan => absurd monaghan (by decide))
    exact congrArg (·.1.result) h.evaluate_eq
  refine ⟨rows, found, completes, ?_⟩
  exact shear_dissipates .cubic Kernel.lineSettings Kernel.lineKernel Kernel.create_lineKernel
    slidingPair.positions rows found (make (.record []) .strict) (.create .adami .null) .adami rfl
    Kernel.lineKernel plan planned rfl ⟨none, none⟩ slidingPair slidingPair_owned
    slidingPair_material slidingPair_unloaded completes

end Evaluator

end ParticleMomentum
