import ParticleMomentum.Proofs.Evaluation.Outcomes
import ParticleMomentum.Proofs.Exact.Scenarios
import ParticleMomentum.Proofs.Settings.Faults

/-!
# Admissible states

In exact arithmetic no evaluation divides by zero on the pairs that a kernel of positive radius finds, if
all masses and densities are positive. The divisors are products and sums of densities, masses, distances
and of viscosities that have been found to be positive; a search leaves out the pairs whose distance is
zero. A scenario keeps to this, whatever its settings: the bounds of the density, of its perturbation and
of the spacing make the particles of the lattice material.
-/

namespace ParticleMomentum

open Arithmetic
open Trail (faultsIn_bind)

/-! ## Evaluations -/

section

variable {n : Nat} {kernel : Kernel ℝ} {positions : Vector (Vector3 ℝ) n} {rows : List (PairRow n ℝ)}

/-- The particles of a pair that is found do not coincide. -/
theorem Neighbours.distance_ne_zero_of_find (radius : 0 < kernel.supportRadius)
    (found : (find kernel positions).result = .ok rows) : ∀ row ∈ rows, row.distance ≠ 0 := by
  intro row hmem
  obtain ⟨factor, hf, -⟩ := rows_of_find found
  obtain ⟨i, j, -, -, apart, rfl⟩ := (mem_rows_iff found hf).mp hmem
  exact (distance_pos_of_isApart radius apart).ne'

/-- An evaluation of material particles that do not coincide in pairs may be refused, but does not divide
by zero. -/
theorem Evaluator.evaluate_noZeroDivisor {e : Ensemble n ℝ} (scheme : Scheme)
    (materials : ∀ k : Fin n, e.particles[k].Material) (apart : ∀ row ∈ rows, row.distance ≠ 0)
    (ev : Evaluator ℝ) (modified : Sides (Option (List ℝ))) :
    NoZeroDivisor (ev.evaluate (FormulationClass.ofScheme scheme) rows modified e).1.result := by
  rcases planned : ev.plan with _ | plan
  · rw [evaluate, planned]
    exact .error (by intro equal; cases equal)
  rcases fits : Evaluator.inputs rows modified with fault | inputs
  · rw [evaluate_of_unfit planned fits]
    have shape : fault = .derivativesShape rows.length := inputs_faults rows modified fault fits
    rw [shape]
    exact .error (by intro equal; cases equal)
  rcases checkDiffusion_cases scheme plan.convectionFactor e rows with passes | ⟨l, report, refused⟩
  · rw [(completes_of_material planned materials apart fits passes).result]
    exact FaultsIn.ok ()
  · rw [evaluate_eq_of_refused planned fits refused]
    exact .error (by intro equal; cases equal)

end

/-! ## What settings make -/

/-- A kernel normalizes every radius that passes its check. -/
theorem Kernel.setup_noZeroDivisor (k : Kernel ℝ) : NoZeroDivisor k.setup.2 := by
  have reads : NoZeroDivisor (do
      let radius ← k.wantedRadius
      let dimension ← k.wantedDimension
      return (← radius.toReal, dimension) : Except (Fault ℝ) (ℝ × Nat)) :=
    k.wantedRadius_noZeroDivisor.bind fun radius => k.wantedDimension_noZeroDivisor.bind fun _ =>
      (Setting.Number.toReal_noZeroDivisor radius).bind fun _ => FaultsIn.ok _
  rw [setup]
  dsimp only
  split
  · next fault stops => exact .error (reads fault stops)
  · next radius dimension wanted =>
    simp only [bind_eq_ok_iff, pure_eq_ok_iff] at wanted
    obtain ⟨number, checked, _, -, r, read, pair⟩ := wanted
    cases pair
    have positive : 0 < radius := by
      cases number.toReal_eq.symm.trans read
      exact value_pos_of_not_atMost (wantedRadius_checked checked)
    obtain ⟨c, normalizes⟩ := k.spline.exists_normalization dimension
      (div_pos positive k.spline.supportRatio_pos)
    rw [normalizes]
    exact FaultsIn.ok ()

theorem Kernel.create_noZeroDivisor (spline : Spline) (config : Setting ℝ) :
    NoZeroDivisor (create spline config) := by
  have sets := (make spline config).setup_noZeroDivisor
  rw [create]
  rcases setup : (make spline config).setup with ⟨k, fault | ⟨⟩⟩
  · rw [setup] at sets
    exact .error (sets fault rfl)
  · exact FaultsIn.ok k

theorem Catalogue.createKernel_noZeroDivisor (id config : Setting ℝ) :
    NoZeroDivisor (createKernel id config) :=
  (find_noZeroDivisor _ _ _).bind fun _ => (resolveClass_noZeroDivisor _ _).bind fun spline =>
    config.holder_noZeroDivisor.bind fun settings => Kernel.create_noZeroDivisor spline settings

theorem Catalogue.sound_of_createKernel {id config : Setting ℝ} {k : Kernel ℝ}
    (h : createKernel id config = .ok k) : k.Sound := by
  simp only [createKernel, bind_eq_ok_iff] at h
  obtain ⟨_, -, spline, -, settings, -, created⟩ := h
  exact Kernel.sound_of_create created

theorem Settings.equipment_noZeroDivisor (settings : Settings ℝ) : NoZeroDivisor settings.equipment :=
  (Catalogue.createFormulation_noZeroDivisor _ _).bind fun formulation =>
    (Catalogue.createKernel_noZeroDivisor _ _).bind fun kernel =>
      (Plan.ofSettings_noZeroDivisor _ formulation kernel).bind fun _ => FaultsIn.ok _

/-- Settings make a formulation from the catalogue and a sound kernel. -/
theorem Settings.sound_of_equipment {settings : Settings ℝ} {made : Equipment ℝ}
    (h : settings.equipment = .ok made) :
    made.formulation.kind.IsRegistered ∧ made.kernel.Sound := by
  simp only [equipment, bind_eq_ok_iff, pure_eq_ok_iff] at h
  obtain ⟨formulation, formulated, kernel, created, plan, -, rfl⟩ := h
  exact ⟨Catalogue.createFormulation_isRegistered formulated, Catalogue.sound_of_createKernel created⟩

/-! ## Lattices -/

namespace CubicLattice

variable {settings : Settings ℝ} {l : CubicLattice ℝ}

/-- The lattice of valid settings has a positive mass and density, and a perturbation below one. -/
theorem bounds_of_validate (valid : settings.validate = .ok ()) (laid : ofSettings settings = .ok l) :
    0 < l.mass ∧ 0 < l.density ∧ |l.densityPerturbation| < 1 := by
  simp only [ofSettings, bind_eq_ok_iff, pure_eq_ok_iff, boundedPower_real] at laid
  obtain ⟨_, -, _, -, spacing, spacing_read, density, density_read, _, -, perturbation,
    perturbation_read, _, -, _, ⟨⟩, _, -, _, -, _, -, _, -, _, -, rfl⟩ := laid
  have spaced : (1e-6 : ℝ) ≤ spacing :=
    (Settings.within_of_validate valid spacing_read rfl rfl rfl).1
  have dense : (1e-9 : ℝ) ≤ density :=
    (Settings.within_of_validate valid density_read rfl rfl rfl).1
  have perturbed : (0.0 : ℝ) ≤ perturbation ∧ perturbation ≤ 0.5 :=
    Settings.within_of_validate valid perturbation_read rfl rfl rfl
  have spacing_pos : 0 < spacing := lt_of_lt_of_le (by norm_num) spaced
  have density_pos : 0 < density := lt_of_lt_of_le (by norm_num) dense
  refine ⟨mul_pos density_pos (pow_pos spacing_pos 3), density_pos, ?_⟩
  rw [abs_lt]
  constructor
  · exact lt_of_lt_of_le (by norm_num) perturbed.1
  · exact lt_of_le_of_lt perturbed.2 (by norm_num)

end CubicLattice

/-! ## Scenarios -/

namespace Scenario

variable {draw : Draws ℝ} {l : CubicLattice ℝ} {kernel : Kernel ℝ}

theorem evaluate_noZeroDivisor (sound : kernel.Sound) (scheme : Scheme) (ev : Evaluator ℝ)
    (id : Option (Setting ℝ)) (materials : ∀ k : Fin l.size, (l.cleared draw).particles[k].Material) :
    NoZeroDivisor (evaluate ev (FormulationClass.ofScheme scheme) kernel id l draw).result := by
  obtain ⟨_, finds⟩ := Neighbours.find_ends sound (l.ensemble draw).positions
  refine faultsIn_bind (finds ▸ FaultsIn.ok _) fun rows found => ?_
  refine faultsIn_bind (FaultsIn.ok ()) fun _ _ => ?_
  have apart := Neighbours.distance_ne_zero_of_find sound.radius_pos found
  have evaluated := Evaluator.evaluate_noZeroDivisor scheme materials apart ev (Sides.both none)
  exact faultsIn_bind evaluated fun _ _ => FaultsIn.ok _

/-- A scenario does not divide by zero if its lattice is perturbed by up to the fractions that its settings
give. -/
theorem run_noZeroDivisor {settings : Settings ℝ}
    (unit : ∀ l, CubicLattice.ofSettings settings = .ok l →
      ∀ k < l.uniformDraws, CubicLattice.spread (draw k) ∈ Set.Icc (-1 : ℝ) 1) :
    NoZeroDivisor (run settings draw).result := by
  rw [result_run]
  refine settings.validate_noZeroDivisor.bind_at fun _ valid => ?_
  refine settings.equipment_noZeroDivisor.bind_at fun made equipment => ?_
  refine (CubicLattice.ofSettings_noZeroDivisor settings).bind_at fun l laid => ?_
  obtain ⟨⟨scheme, kind⟩, sound⟩ := Settings.sound_of_equipment equipment
  obtain ⟨mass, density, small⟩ := CubicLattice.bounds_of_validate valid laid
  rw [kind]
  refine evaluate_noZeroDivisor sound scheme _ _ (CubicLattice.cleared_material mass density small ?_)
  intro k within
  exact CubicLattice.spread_mem_iff.mp (unit l laid k within)

end Scenario

/-! ## No division by zero -/

/-- In exact arithmetic an evaluation of particles with positive masses and densities never divides by
zero: whatever the evaluator and its plan, the formulation, the modified slopes and the particles otherwise
are, on every list of pairs that a kernel of positive support radius finds; only a kernel that is ready
finds one. Nor does any scenario whose uniform draws lie between minus one and one. -/
theorem no_division_by_zero :
    (∀ (n : Nat) (kernel : Kernel ℝ) (positions : Vector (Vector3 ℝ) n) (rows : List (PairRow n ℝ)),
      0 < kernel.supportRadius → (Neighbours.find kernel positions).result = .ok rows →
      ∀ (ev : Evaluator ℝ) (scheme : Scheme) (modified : Sides (Option (List ℝ))) (e : Ensemble n ℝ),
        (∀ k : Fin n, e.particles[k].Material) →
        (ev.evaluate (FormulationClass.ofScheme scheme) rows modified e).1.result ≠
          .error .zeroDivisor) ∧
    ∀ (settings : Settings ℝ) (draw : Draws ℝ),
      (∀ l, CubicLattice.ofSettings settings = .ok l →
        ∀ k < l.uniformDraws, CubicLattice.spread (draw k) ∈ Set.Icc (-1 : ℝ) 1) →
      (Scenario.run settings draw).result ≠ .error .zeroDivisor := by
  constructor
  · intro n kernel positions rows radius found ev scheme modified e materials
    have apart := Neighbours.distance_ne_zero_of_find radius found
    exact (Evaluator.evaluate_noZeroDivisor scheme materials apart ev modified).ne
  · intro settings draw unit
    exact (Scenario.run_noZeroDivisor unit).ne

theorem no_division_by_zero_loadedPair :
    (∃ rows, (Neighbours.find Kernel.lineKernel Evaluator.loadedPair.positions).result = .ok rows ∧
      (Evaluator.wholeEvaluator.evaluate (FormulationClass.ofScheme .monaghan) rows ⟨none, none⟩
        Evaluator.loadedPair).1.result ≠ .error .zeroDivisor) ∧
    (Settings.defaults : Settings ℝ).validate = .ok () ∧
      (Scenario.run Settings.defaults fun _ => (0 : ℝ)).result ≠ .error .zeroDivisor := by
  have sound := Kernel.sound_of_create Kernel.create_lineKernel
  obtain ⟨rows, found⟩ := Neighbours.find_ends sound Evaluator.loadedPair.positions
  refine ⟨⟨rows, found, ?_⟩, Settings.validate_defaults, ?_⟩
  · exact no_division_by_zero.1 2 _ _ rows sound.radius_pos found Evaluator.wholeEvaluator .monaghan _ _
      Evaluator.loadedPair_material
  · refine no_division_by_zero.2 _ _ fun l _ k _ => CubicLattice.spread_mem_iff.mpr ?_
    exact ⟨le_refl 0, zero_le_one⟩

end ParticleMomentum
