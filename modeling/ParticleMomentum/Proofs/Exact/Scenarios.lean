import ParticleMomentum.Proofs.Evaluation.Totality
import ParticleMomentum.Proofs.Exact.Pairs
import ParticleMomentum.Proofs.Scenarios
import ParticleMomentum.Proofs.Settings

/-!
# Scenarios in exact arithmetic

A lattice consists of sound particles if its density is positive, the perturbation of the density is
below one, and the draws that perturb it lie in the unit interval. With the settings that hold unless
others are given, a scenario therefore returns.
-/

namespace ParticleMomentum

namespace CubicLattice

variable {l : CubicLattice ℝ} {draw : Draws ℝ}

theorem spread_real (d : ℝ) : spread d = -1 + 2 * d := by
  rw [spread]
  norm_num

/-- Just the draws from the unit interval spread between minus one and one. -/
theorem spread_mem_iff {d : ℝ} : spread d ∈ Set.Icc (-1 : ℝ) 1 ↔ d ∈ Set.Icc (0 : ℝ) 1 := by
  rw [spread_real, Set.mem_Icc, Set.mem_Icc]
  constructor
  · rintro ⟨least, greatest⟩
    constructor <;> linarith
  · rintro ⟨least, greatest⟩
    constructor <;> linarith

theorem abs_spread_le {d : ℝ} (h : d ∈ Set.Icc (0 : ℝ) 1) : |spread d| ≤ 1 :=
  abs_le.mpr (spread_mem_iff.mpr h)

theorem densityAt_pos (density : 0 < l.density) (small : |l.densityPerturbation| < 1) {k : Nat}
    (unit : draw (3 * l.size + k) ∈ Set.Icc (0 : ℝ) 1) : 0 < l.densityAt draw k := by
  have bound : |l.densityPerturbation * spread (draw (3 * l.size + k))| < 1 := by
    rw [abs_mul]
    exact mul_lt_one_of_nonneg_of_lt_one_left (abs_nonneg _) small (abs_spread_le unit)
  have above := (abs_lt.mp bound).1
  rw [densityAt, Arithmetic.one_literal]
  exact mul_pos density (by linarith)

/-- The lattice before the evaluation of a scenario: its accelerations are cleared. -/
noncomputable def cleared (l : CubicLattice ℝ) (draw : Draws ℝ) : Ensemble l.size ℝ :=
  ((l.ensemble draw).clear (.vector .accelerations)).clear (.vector .modifiedAccelerations)

theorem cleared_particle (l : CubicLattice ℝ) (draw : Draws ℝ) (k : Fin l.size) :
    (l.cleared draw).particles[k] =
      { l.particle draw k with acceleration := 0, modifiedAcceleration := 0 } := by
  have laid : (l.ensemble draw).particles[k] = l.particle draw k := Vector.getElem_ofFn _
  simp only [cleared, Ensemble.clear, Ensemble.mapParticles_particle, laid]
  rfl

theorem cleared_material (mass : 0 < l.mass) (density : 0 < l.density)
    (small : |l.densityPerturbation| < 1)
    (unit : ∀ k < l.uniformDraws, draw k ∈ Set.Icc (0 : ℝ) 1) (k : Fin l.size) :
    (l.cleared draw).particles[k].Material := by
  rw [cleared_particle]
  refine ⟨mass, densityAt_pos density small (unit _ ?_)⟩
  have := k.isLt
  rw [uniformDraws]
  omega

end CubicLattice

namespace Scenario

variable {draw : Draws ℝ} {l : CubicLattice ℝ} {kernel : Kernel ℝ} {ev : Evaluator ℝ} {plan : Plan ℝ}

/-- A scenario of the Adami scheme returns on every lattice of sound particles. -/
theorem evaluate_ends (planned : ev.plan = some plan) (sound : kernel.Sound) (id : Option (Setting ℝ))
    (materials : ∀ k : Fin l.size, (l.cleared draw).particles[k].Material) :
    (evaluate ev .adami kernel id l draw).Ends := by
  refine (Neighbours.find_ends sound _).bind fun rows found => ?_
  refine (Trail.Ends.ok _ ()).bind fun _ _ => ?_
  obtain ⟨inputs, fits⟩ : ∃ inputs, Evaluator.inputs rows (Sides.both none) = .ok inputs := by
    simp [Evaluator.inputs, Sides.both]
  have completes : ev.Completes (FormulationClass.ofScheme .adami) plan rows (Sides.both none)
      (l.cleared draw) inputs :=
    Evaluator.completes_of_material planned materials
      (fun row hmem => (Neighbours.faithful_of_mem_rows sound found hmem).distance_pos.ne') fits
      Evaluator.checkDiffusion_adami
  have result := congrArg (fun outcome => outcome.1.result) completes.evaluate_eq
  exact Trail.Ends.bind ⟨(), result⟩ fun _ _ => .ok [] _

/-- A scenario of the Adami scheme returns if its settings are valid, and the lattice that they describe
consists of sound particles. -/
theorem run_ends {settings : Settings ℝ} (valid : settings.validate = .ok ()) {made : Equipment ℝ}
    (equipment : settings.equipment = .ok made) (adami : made.formulation.kind = .adami)
    (sound : made.kernel.Sound) (laid : CubicLattice.ofSettings settings = .ok l) (mass : 0 < l.mass)
    (density : 0 < l.density) (small : |l.densityPerturbation| < 1)
    (unit : ∀ k < l.uniformDraws, draw k ∈ Set.Icc (0 : ℝ) 1) : (run settings draw).Ends := by
  rw [Trail.Ends, result_run, valid, equipment, laid]
  change (evaluate _ made.formulation.kind _ _ _ _).Ends
  rw [adami]
  exact evaluate_ends rfl sound _ (CubicLattice.cleared_material mass density small unit)

/-! ## The usual settings -/

/-- The usual settings with a bulk viscosity. -/
noncomputable def bulky (x : ℝ) : Settings ℝ := Settings.defaults.put "bulk_viscosity" (.real x)

/-- The usual bulk viscosity is zero. -/
theorem bulky_zero : bulky 0.0 = Settings.defaults := rfl

variable {x : ℝ}

theorem validate_bulky (nonneg : 0 ≤ x) (most : x ≤ 1e6) : (bulky x).validate = .ok () := by
  refine forM_eq_ok_iff.mpr fun b hb => ?_
  by_cases bulk : b.key = "bulk_viscosity"
  · have found : (bulky x).find? b.key = some (.real x) := bulk ▸ rfl
    have only := b.find?_key hb
    rw [bulk] at only
    obtain ⟨hl, hg⟩ : b.least.number? = some (.real 0.0) ∧ b.greatest.number? = some (.real 1e6) :=
      Option.some.inj only ▸ ⟨rfl, rfl⟩
    have holds : b.holds (.real x) = true := by
      rw [Bound.holds_iff hl hg]
      simp only [Setting.Number.value]
      exact ⟨by linarith, most⟩
    rw [Bound.check, found]
    exact if_pos holds
  · rw [Bound.check, bulky, Settings.find?_put_of_ne bulk, ← Bound.check]
    exact b.check_defaults hb

/-- The lattice of the usual settings. -/
theorem exists_lattice_bulky (x : ℝ) :
    ∃ l, CubicLattice.ofSettings (bulky x) = .ok l ∧ l.edge = 6 ∧
      0 < l.mass ∧ 0 < l.density ∧ |l.densityPerturbation| < 1 := by
  refine ⟨_, rfl, rfl, ?_, ?_, ?_⟩
  · change (0 : ℝ) < 1000.0 * 0.1 ^ 3
    norm_num
  · change (0 : ℝ) < 1000.0
    norm_num
  · change |(0.01 : ℝ)| < 1
    rw [abs_lt]
    constructor <;> norm_num

/-- The usual settings make a kernel. -/
theorem exists_kernel_bulky (x : ℝ) :
    ∃ kernel, Kernel.create .cubic (.record (bulky x)) = .ok kernel := by
  have pos : (0 : ℝ) < 0.3 := by norm_num
  have held : Setting.lookup (.record (bulky x)) "support_radius" = .ok (some (.real 0.3)) := rfl
  have radius : (Kernel.make .cubic _).wantedRadius = _ := Kernel.wantedRadius_of_pos pos held
  obtain ⟨kernel, hk, -⟩ := Kernel.exists_create_of_wants
    ⟨_, radius, Setting.Number.toReal_eq _, rfl⟩
  exact ⟨kernel, hk⟩

/-- With the usual settings and any bulk viscosity in its bound a scenario returns, whatever is drawn. -/
theorem run_bulky_ends (nonneg : 0 ≤ x) (most : x ≤ 1e6)
    (unit : ∀ k < 4 * 6 ^ 3, draw k ∈ Set.Icc (0 : ℝ) 1) : (run (bulky x) draw).Ends := by
  obtain ⟨kernel, created⟩ := exists_kernel_bulky x
  have sound := Kernel.sound_of_create created
  have planned : Plan.ofSettings (.record (bulky x)) (Formulation.create .adami (.record (bulky x)))
      kernel = .ok ⟨.off, false, .fused, kernel.convectionFactor⟩ :=
    Plan.ofSettings_eq_ok_iff.mpr ⟨⟨rfl, sound.ready, rfl, rfl, fun _ => .inr rfl⟩, rfl, rfl⟩
  have equipment : (bulky x).equipment = .ok ⟨Formulation.create .adami (.record (bulky x)), kernel,
      ⟨.off, false, .fused, kernel.convectionFactor⟩⟩ := by
    simp only [Settings.equipment, bind_eq_ok_iff, pure_eq_ok_iff]
    exact ⟨_, rfl, kernel, created, _, planned, rfl⟩
  obtain ⟨l, laid, edge, mass, density, small⟩ := exists_lattice_bulky x
  have draws : l.uniformDraws = 4 * 6 ^ 3 := by
    rw [CubicLattice.uniformDraws, CubicLattice.size, edge]
    norm_num
  exact run_ends (validate_bulky nonneg most) equipment rfl sound laid mass density small (draws ▸ unit)

/-- With the usual settings a scenario returns, whatever is drawn. -/
theorem run_defaults_ends (unit : ∀ k < 4 * 6 ^ 3, draw k ∈ Set.Icc (0 : ℝ) 1) :
    (run Settings.defaults draw).Ends := by
  rw [← bulky_zero]
  exact run_bulky_ends (by norm_num) (by norm_num) unit

end Scenario

end ParticleMomentum
