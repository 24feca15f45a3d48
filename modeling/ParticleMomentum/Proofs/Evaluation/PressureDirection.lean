import ParticleMomentum.Proofs.Evaluation.MomentumEquation
import ParticleMomentum.Proofs.Exact.Pairs

/-!
# The direction of the pressure

Under positive pressure the particles of a pair are pulled together. The direction of a pair points from
its first particle to its second one, the kernel falls with the distance, and the pressure term takes
the coefficient of the first particle with a minus sign: so that particle is accelerated along the
direction, towards the other one. The main result states this of evaluations, with the exact cases in
which nothing is pulled.
-/

namespace ParticleMomentum

variable {n : Nat} {scheme : Scheme} {plan : Plan ℝ}

noncomputable def Particle.unloaded (q : Particle ℝ) : Particle ℝ := { q with pressure := 0 }

/-! ## The pressure term -/

namespace Equation

variable {p : Sides (Particle ℝ)} {row : PairRow n ℝ}

theorem pressureFactor_unloaded : pressureFactor scheme (p.map Particle.unloaded) = 0 := by
  cases scheme <;> simp [pressureFactor, Sides.map, Particle.unloaded]

/-- Without pressure only the pressure term is missing. -/
theorem acceleration_unloaded (side : Side) :
    acceleration scheme plan (p.map Particle.unloaded) row side =
      acceleration scheme plan p row side - (pressure scheme p row).get side := by
  have none : (pressure scheme (p.map Particle.unloaded) row).get side = 0 := by
    cases side <;> simp [pressure, Sides.get, pressureFactor_unloaded]
  rw [acceleration, none, acceleration, zero_add, add_assoc, add_sub_cancel_left]
  rfl

/-- The coefficients have the signs of the slopes. -/
theorem exists_coefficient (scheme : Scheme) (row : PairRow n ℝ) (hi : p.i.Material) (hj : p.j.Material) :
    ∃ k : Sides ℝ, 0 < k.i ∧ 0 < k.j ∧
      coefficient scheme p row = ⟨row.slope.i * k.i, row.slope.j * k.j⟩ := by
  cases scheme with
  | monaghan => exact ⟨⟨p.j.mass, p.i.mass⟩, hj.mass_pos, hi.mass_pos, rfl⟩
  | adami =>
      have volumes : 0 < (p.i.mass / p.i.density) ^ 2 + (p.j.mass / p.j.density) ^ 2 :=
        add_pos (pow_pos (div_pos hi.mass_pos hi.density_pos) 2)
          (pow_pos (div_pos hj.mass_pos hj.density_pos) 2)
      refine ⟨⟨_, _⟩, div_pos volumes hi.mass_pos, div_pos volumes hj.mass_pos, ?_⟩
      simp only [coefficient, Sides.mk.injEq]
      constructor <;> ring

theorem pressureFactor_nonneg (scheme : Scheme) (hi : p.i.Material) (hj : p.j.Material) (pi : 0 ≤ p.i.pressure)
    (pj : 0 ≤ p.j.pressure) : 0 ≤ pressureFactor scheme p := by
  have di := hi.density_pos
  have dj := hj.density_pos
  cases scheme <;> simp only [pressureFactor] <;> positivity

/-- The shared pressure vanishes only where there is no pressure on either side. -/
theorem pressureFactor_eq_zero_iff (scheme : Scheme) (hi : p.i.Material) (hj : p.j.Material)
    (pi : 0 ≤ p.i.pressure) (pj : 0 ≤ p.j.pressure) :
    pressureFactor scheme p = 0 ↔ p.i.pressure = 0 ∧ p.j.pressure = 0 := by
  have di := hi.density_pos
  have dj := hj.density_pos
  cases scheme with
  | monaghan =>
      rw [pressureFactor, add_eq_zero_iff_of_nonneg (by positivity) (by positivity),
        div_eq_zero_iff, div_eq_zero_iff]
      simp [di.ne', dj.ne']
  | adami =>
      rw [pressureFactor, div_eq_zero_iff, or_iff_left (add_pos di dj).ne',
        add_eq_zero_iff_of_nonneg (by positivity) (by positivity), mul_eq_zero, mul_eq_zero]
      simp [di.ne', dj.ne', and_comm]

/-- No pressure acts along a pair: it is at the end of the support, or there is none on either side. -/
def Idle (kernel : Kernel ℝ) (p : Sides (Particle ℝ)) (row : PairRow n ℝ) : Prop :=
  row.distance = kernel.supportRadius ∨ (p.i.pressure = 0 ∧ p.j.pressure = 0)

variable {kernel : Kernel ℝ} {positions : Vector (Vector3 ℝ) n}

/-- The pressure term pulls the first particle towards the second one, and the second one back. -/
theorem pressure_pulls (scheme : Scheme) (faithful : row.Faithful kernel positions) (hi : p.i.Material)
    (hj : p.j.Material) (pi : 0 ≤ p.i.pressure) (pj : 0 ≤ p.j.pressure) (busy : ¬ Idle kernel p row) :
    let apart := positions[row.particles.j] - positions[row.particles.i]
    0 < (pressure scheme p row).i.dot apart ∧ (pressure scheme p row).j.dot apart < 0 := by
  intro apart
  obtain ⟨inside, loaded⟩ := not_or.mp busy
  obtain ⟨k, ki, kj, hc⟩ := exists_coefficient scheme row hi hj
  have slopeI := faithful.slope_neg (lt_of_le_of_ne faithful.distance_le inside)
  have slopeJ := faithful.slope_eq ▸ slopeI
  have factor : 0 < pressureFactor scheme p :=
    lt_of_le_of_ne (pressureFactor_nonneg scheme hi hj pi pj) fun h =>
      loaded ((pressureFactor_eq_zero_iff scheme hi hj pi pj).mp h.symm)
  have along : row.direction.dot apart = row.distance := faithful.along
  have coefficientI := mul_neg_of_neg_of_pos slopeI ki
  have coefficientJ := mul_neg_of_neg_of_pos slopeJ kj
  simp only [pressure, hc, Vector3.smul_dot, along]
  constructor
  · exact mul_pos (neg_pos.mpr (mul_neg_of_neg_of_pos coefficientI factor)) faithful.distance_pos
  · exact mul_neg_of_neg_of_pos (mul_neg_of_neg_of_pos coefficientJ factor) faithful.distance_pos

/-- The pressure term of an idle pair is zero. -/
theorem pressure_eq_zero (scheme : Scheme) (faithful : row.Faithful kernel positions) (hi : p.i.Material)
    (hj : p.j.Material) (pi : 0 ≤ p.i.pressure) (pj : 0 ≤ p.j.pressure) (idle : Idle kernel p row)
    (side : Side) : (pressure scheme p row).get side = 0 := by
  obtain ⟨k, -, -, hc⟩ := exists_coefficient scheme row hi hj
  rcases idle with atEnd | unloaded
  · have slopeI := faithful.slope_end atEnd
    have slopeJ := faithful.slope_eq ▸ slopeI
    cases side <;> simp [pressure, hc, slopeI, slopeJ, Sides.get]
  · have factor := (pressureFactor_eq_zero_iff scheme hi hj pi pj).mpr unloaded
    cases side <;> simp [pressure, factor, Sides.get]

end Equation

/-! ## What evaluations add because of pressure -/

theorem Ensemble.unloaded_particle (e : Ensemble n ℝ) (k : Fin n) :
    (e.clear (.scalar .pressures)).particles[k] = e.particles[k].unloaded := by
  refine (e.mapParticles_particle _ k).trans ?_
  change ({ e.particles[k] with pressure := 0.0 } : Particle ℝ) = _
  rw [Arithmetic.zero_literal]
  rfl

theorem PairRow.reaching_get {row : PairRow n ℝ} (distinct : row.particles.i ≠ row.particles.j)
    (side : Side) (g : Target → Side → Vector3 ℝ) (target : Target) :
    row.reaching (row.particles.get side) g target = g target side := by
  rw [reaching_apply]
  cases side with
  | i => rw [Sides.get, if_pos rfl, if_neg distinct.symm, add_zero]
  | j => rw [Sides.get, if_neg distinct, if_pos rfl, zero_add]

namespace Evaluator

/-- What the pressure adds to the acceleration of a particle when a single pair is evaluated: the
difference to the same evaluation of particles without pressure. -/
noncomputable def pressureContribution (ev : Evaluator ℝ) (scheme : Scheme) (row : PairRow n ℝ)
    (e : Ensemble n ℝ) (k : Fin n) : Vector3 ℝ :=
  (ev.evaluate (FormulationClass.ofScheme scheme) [row] ⟨none, none⟩ e).2.particles[k].acceleration -
    (ev.evaluate (FormulationClass.ofScheme scheme) [row] ⟨none, none⟩
      (e.clear (.scalar .pressures))).2.particles[k].acceleration

variable {ev : Evaluator ℝ} {row : PairRow n ℝ} {e : Ensemble n ℝ}

/-- The acceleration of a particle of a pair that is evaluated by itself. -/
theorem acceleration_of_single (planned : ev.plan = some plan)
    (completes : (ev.evaluate (FormulationClass.ofScheme scheme) [row] ⟨none, none⟩ e).1.result =
      .ok ()) (distinct : row.particles.i ≠ row.particles.j) (side : Side) :
    (ev.evaluate (FormulationClass.ofScheme scheme) [row] ⟨none, none⟩
        e).2.particles[row.particles.get side].acceleration =
      e.particles[row.particles.get side].acceleration +
        if ((e.sides row).get side).owned then
          Equation.acceleration scheme plan (e.sides row) row side
        else 0 := by
  obtain ⟨inputs, h⟩ := completes_of_evaluate_eq_ok planned completes
  have single : inputs = [⟨row, row.slope⟩] := by
    cases h.inputs_eq
    rfl
  rw [h.particle, single, List.map_singleton, List.sum_singleton, Particle.receive]
  simp only [PairRow.reaching_get distinct]
  rfl

/-- The pressure adds the pressure term of the momentum equation, on the sides that are owned. -/
theorem pressureContribution_get (planned : ev.plan = some plan)
    (materials : ∀ k : Fin n, e.particles[k].Material) (apart : row.distance ≠ 0)
    (completes : (ev.evaluate (FormulationClass.ofScheme scheme) [row] ⟨none, none⟩ e).1.result =
      .ok ()) (distinct : row.particles.i ≠ row.particles.j) (side : Side) :
    ev.pressureContribution scheme row e (row.particles.get side) =
      if ((e.sides row).get side).owned then (Equation.pressure scheme (e.sides row) row).get side
      else 0 := by
  have unloaded_sides : (e.clear (.scalar .pressures)).sides row =
      (e.sides row).map Particle.unloaded := by
    simp only [Ensemble.sides, e.unloaded_particle, Sides.map]
  have unloaded_completes : ev.Completes (FormulationClass.ofScheme scheme) plan [row] ⟨none, none⟩
      (e.clear (.scalar .pressures)) [⟨row, row.slope⟩] := by
    obtain ⟨inputs, h⟩ := completes_of_evaluate_eq_ok planned completes
    refine completes_of_material planned (fun k => ?_) (by simpa using apart) rfl ?_
    · rw [e.unloaded_particle]
      exact ⟨(materials k).mass_pos, (materials k).density_pos⟩
    · refine checkDiffusion_result_eq_ok_iff.mpr fun checks row' hmem => ?_
      have passed := checkDiffusion_result_eq_ok_iff.mp h.check checks row' hmem
      rw [List.mem_singleton.mp hmem] at passed ⊢
      rw [unloaded_sides]
      exact passed
  rw [pressureContribution, acceleration_of_single planned completes distinct,
    acceleration_of_single planned (by rw [unloaded_completes.evaluate_eq]) distinct,
    e.unloaded_particle, unloaded_sides]
  have same_owner : (((e.sides row).map Particle.unloaded).get side).owned =
      ((e.sides row).get side).owned := by cases side <;> rfl
  rw [same_owner, Equation.acceleration_unloaded]
  change _ - (e.particles[row.particles.get side].acceleration + _) = _
  rw [add_sub_add_left_eq_sub]
  split
  · rw [sub_sub_cancel]
  · rw [sub_zero]

/-- The component of what the pressure adds along a vector. -/
theorem pressureContribution_dot (planned : ev.plan = some plan)
    (materials : ∀ k : Fin n, e.particles[k].Material) (apart : row.distance ≠ 0)
    (completes : (ev.evaluate (FormulationClass.ofScheme scheme) [row] ⟨none, none⟩ e).1.result =
      .ok ()) (distinct : row.particles.i ≠ row.particles.j) (side : Side) (v : Vector3 ℝ) :
    (ev.pressureContribution scheme row e (row.particles.get side)).dot v =
      if ((e.sides row).get side).owned then
        ((Equation.pressure scheme (e.sides row) row).get side).dot v
      else 0 := by
  rw [pressureContribution_get planned materials apart completes distinct]
  split
  · rfl
  · exact Vector3.zero_dot v

/-! ## The loaded pair on a line -/

section LoadedPair

open Neighbours

theorem loadedPair_position (k : Fin 2) : loadedPair.positions[k] = ⟨k.val, 0, 0⟩ := by
  rw [Ensemble.positions_particle]
  exact congrArg Particle.position (loadedPair_particle k)

/-- The way from the one particle to the other. -/
theorem loadedPair_separation : separation loadedPair.positions 0 1 = ⟨0, 1, ⟨1, 0, 0⟩, 1⟩ := by
  have vector : loadedPair.positions[(1 : Fin 2)] - loadedPair.positions[(0 : Fin 2)] =
      (⟨1, 0, 0⟩ : Vector3 ℝ) := by
    rw [loadedPair_position, loadedPair_position]
    ext <;> simp
  have length : Vector3.norm (⟨1, 0, 0⟩ : Vector3 ℝ) = 1 := by
    simp [Vector3.norm, Vector3.squaredNorm, Vector3.dot_eq]
  rw [separation, vector, length]

/-- The row of the pair is found. -/
theorem loadedRow_mem {rows : List (PairRow 2 ℝ)}
    (found : (find Kernel.lineKernel loadedPair.positions).result = .ok rows) : loadedRow ∈ rows := by
  have sound := Kernel.sound_of_create Kernel.create_lineKernel
  refine (mem_rows_iff found sound.slopeFactor_eq).mpr ⟨0, 1, by decide, ?_, ?_, ?_⟩
  · rw [withinSupport_iff sound.radius_pos, loadedPair_separation]
    exact one_le_two
  · rw [loadedPair_separation, isApart, decide_eq_true_iff, coincidentTolerance, Kernel.lineKernel]
    norm_num
  · have slope : Kernel.lineKernel.slopeWith
        (Kernel.lineKernel.normalization / Kernel.lineKernel.smoothingLength) .bulk 1 = -1 / 2 := by
      rw [Kernel.slopeWith, Kernel.lineKernel, Spline.profileSlope_cubic]
      norm_num
    rw [loadedPair_separation, slope]
    rfl

theorem loadedPair_sides : loadedPair.sides loadedRow = ⟨loadedParticle 0, loadedParticle 1⟩ := by
  have particles : loadedRow.particles = ⟨0, 1⟩ := by decide
  simp only [Ensemble.sides, particles, loadedPair_particle]
  norm_num

/-- The pressure terms of the pair, along the way from the one particle to the other. -/
theorem loadedPair_pressure :
    Equation.pressure .adami (loadedPair.sides loadedRow) loadedRow =
      ⟨(1 : ℝ) • ⟨1, 0, 0⟩, (-1 : ℝ) • ⟨1, 0, 0⟩⟩ := by
  have direction : loadedRow.direction = (⟨1, 0, 0⟩ : Vector3 ℝ) := by
    change (Vector3.divide ⟨1, 0, 0⟩ 1 : Vector3 ℝ) = _
    simp [Vector3.divide]
  have mass (x : ℝ) : (loadedParticle x).mass = 1 := Arithmetic.one_literal
  have density (x : ℝ) : (loadedParticle x).density = 1 := Arithmetic.one_literal
  have pressure (x : ℝ) : (loadedParticle x).pressure = 1 := rfl
  have coefficient : Equation.coefficient .adami (loadedPair.sides loadedRow) loadedRow = ⟨-1, -1⟩ := by
    rw [Equation.coefficient, loadedPair_sides]
    simp only [mass, density, loadedRow, rowOf, Sides.both]
    norm_num
  have factor : Equation.pressureFactor .adami (loadedPair.sides loadedRow) = 1 := by
    rw [Equation.pressureFactor, loadedPair_sides]
    simp [density, pressure]
  rw [Equation.pressure, coefficient, factor, direction, mul_one, neg_neg]

/-- What the pressure adds for the pair, along the way from the one particle to the other. -/
theorem pressureContribution_loadedPair :
    let apart := loadedPair.particles[(1 : Fin 2)].position - loadedPair.particles[(0 : Fin 2)].position
    (wholeEvaluator.pressureContribution .adami loadedRow loadedPair 0).dot apart = 1 ∧
      (wholeEvaluator.pressureContribution .adami loadedRow loadedPair 1).dot apart = -1 := by
  intro apart
  have way : apart = ⟨1, 0, 0⟩ := by
    simp only [apart, loadedPair_particle]
    ext <;> simp [loadedParticle]
  have owned (side : Side) : ((loadedPair.sides loadedRow).get side).owned = true := by
    rw [loadedPair_sides]
    cases side <;> rfl
  have component (side : Side) :
      (wholeEvaluator.pressureContribution .adami loadedRow loadedPair
        (loadedRow.particles.get side)).dot apart =
      ((Equation.pressure .adami (loadedPair.sides loadedRow) loadedRow).get side).dot apart :=
    (pressureContribution_dot rfl loadedPair_material one_ne_zero loadedPair_completes (by decide) side
      apart).trans (if_pos (owned side))
  have square : (⟨1, 0, 0⟩ : Vector3 ℝ).dot ⟨1, 0, 0⟩ = 1 := by simp [Vector3.dot_eq]
  rw [loadedPair_pressure] at component
  constructor
  · refine (component .i).trans ?_
    rw [Sides.get, Vector3.smul_dot, way, square, one_mul]
  · refine (component .j).trans ?_
    rw [Sides.get, Vector3.smul_dot, way, square, mul_one]

theorem loadedPair_pressed (k : Fin 2) : 0 ≤ loadedPair.particles[k].pressure := by
  rw [loadedPair_particle]
  exact zero_le_one

end LoadedPair

/-! ## Evaluations -/

/-- Positive pressure pulls the particles of a found pair together, as far as they are owned. It pushes
neither away from the other just where it does nothing: where no particle is owned, where the distance is
the support radius, or where there is no pressure on either side. -/
theorem pressure_attracts (spline : Spline) (config : Setting ℝ) (kernel : Kernel ℝ)
    (created : Kernel.create spline config = .ok kernel) (e : Ensemble n ℝ)
    (rows : List (PairRow n ℝ)) (found : (Neighbours.find kernel e.positions).result = .ok rows)
    (row : PairRow n ℝ) (hmem : row ∈ rows) (materials : ∀ k : Fin n, e.particles[k].Material)
    (pressures : ∀ k : Fin n, 0 ≤ e.particles[k].pressure) (ev : Evaluator ℝ) (scheme : Scheme)
    (completes : (ev.evaluate (FormulationClass.ofScheme scheme) [row] ⟨none, none⟩ e).1.result =
      .ok ()) :
    let i := row.particles.i
    let j := row.particles.j
    let apart := e.particles[j].position - e.particles[i].position
    let onI := (ev.pressureContribution scheme row e i).dot apart
    let onJ := (ev.pressureContribution scheme row e j).dot apart
    (0 ≤ onI ∧ onJ ≤ 0) ∧
      (onI ≤ 0 ∧ 0 ≤ onJ ↔
        (e.particles[i].owned = false ∧ e.particles[j].owned = false) ∨
          row.distance = kernel.supportRadius ∨
          (e.particles[i].pressure = 0 ∧ e.particles[j].pressure = 0)) := by
  intro i j apart onI onJ
  have faithful := Neighbours.faithful_of_mem_rows (Kernel.sound_of_create created) found hmem
  obtain ⟨plan, planned⟩ := exists_plan_of_evaluate_eq_ok completes
  have component := pressureContribution_dot planned materials faithful.distance_pos.ne' completes
    faithful.ordered.ne
  have valueI : onI = if e.particles[i].owned then
      (Equation.pressure scheme (e.sides row) row).i.dot apart else 0 := component .i apart
  have valueJ : onJ = if e.particles[j].owned then
      (Equation.pressure scheme (e.sides row) row).j.dot apart else 0 := component .j apart
  rw [valueI, valueJ]
  have pi := pressures i
  have pj := pressures j
  by_cases idle : Equation.Idle kernel (e.sides row) row
  · have none := Equation.pressure_eq_zero scheme faithful (materials i) (materials j) pi pj
      idle
    have noneI : (Equation.pressure scheme (e.sides row) row).i = 0 := none .i
    have noneJ : (Equation.pressure scheme (e.sides row) row).j = 0 := none .j
    simp only [noneI, noneJ, Vector3.zero_dot, ite_self, le_refl, and_self, true_and, true_iff]
    exact Or.inr idle
  · obtain ⟨pullI, pullJ⟩ := Equation.pressure_pulls scheme faithful (materials i)
      (materials j) pi pj idle
    have way : e.positions[row.particles.j] - e.positions[row.particles.i] = apart := by
      rw [Ensemble.positions_particle, Ensemble.positions_particle]
    rw [way] at pullI pullJ
    have busy : ¬ (row.distance = kernel.supportRadius ∨
        (e.particles[i].pressure = 0 ∧ e.particles[j].pressure = 0)) := idle
    rw [or_iff_left busy]
    cases e.particles[i].owned <;> cases e.particles[j].owned <;>
      simp [pullI.le, pullJ.le, pullI, pullJ]

theorem pressure_attracts_loadedPair :
    ∃ rows, (Neighbours.find Kernel.lineKernel loadedPair.positions).result = .ok rows ∧ loadedRow ∈ rows ∧
      let apart := loadedPair.particles[(1 : Fin 2)].position - loadedPair.particles[(0 : Fin 2)].position
      let onI := (wholeEvaluator.pressureContribution .adami loadedRow loadedPair 0).dot apart
      let onJ := (wholeEvaluator.pressureContribution .adami loadedRow loadedPair 1).dot apart
      (0 ≤ onI ∧ onJ ≤ 0) ∧
        (onI ≤ 0 ∧ 0 ≤ onJ ↔
          (loadedPair.particles[(0 : Fin 2)].owned = false ∧
            loadedPair.particles[(1 : Fin 2)].owned = false) ∨
          loadedRow.distance = Kernel.lineKernel.supportRadius ∨
          (loadedPair.particles[(0 : Fin 2)].pressure = 0 ∧
            loadedPair.particles[(1 : Fin 2)].pressure = 0)) := by
  have sound := Kernel.sound_of_create Kernel.create_lineKernel
  obtain ⟨rows, found⟩ := Neighbours.find_ends sound loadedPair.positions
  exact ⟨rows, found, loadedRow_mem found,
    pressure_attracts .cubic Kernel.lineSettings Kernel.lineKernel Kernel.create_lineKernel loadedPair rows
      found loadedRow (loadedRow_mem found) loadedPair_material loadedPair_pressed wholeEvaluator .adami
      loadedPair_completes⟩

/-- It is not so that positive pressure pushes the particles of a pair apart. -/
theorem pressure_not_repelling :
    ¬ ∀ (n : Nat) (spline : Spline) (config : Setting ℝ) (kernel : Kernel ℝ)
        (_ : Kernel.create spline config = .ok kernel) (e : Ensemble n ℝ) (rows : List (PairRow n ℝ))
        (_ : (Neighbours.find kernel e.positions).result = .ok rows) (row : PairRow n ℝ) (_ : row ∈ rows)
        (_ : ∀ k : Fin n, e.particles[k].Material) (_ : ∀ k : Fin n, 0 ≤ e.particles[k].pressure)
        (ev : Evaluator ℝ) (scheme : Scheme)
        (_ : (ev.evaluate (FormulationClass.ofScheme scheme) [row] ⟨none, none⟩ e).1.result = .ok ()),
      let i := row.particles.i
      let j := row.particles.j
      let apart := e.particles[j].position - e.particles[i].position
      (ev.pressureContribution scheme row e i).dot apart ≤ 0 ∧
        0 ≤ (ev.pressureContribution scheme row e j).dot apart := by
  intro repelling
  have sound := Kernel.sound_of_create Kernel.create_lineKernel
  obtain ⟨rows, found⟩ := Neighbours.find_ends sound loadedPair.positions
  obtain ⟨onI, -⟩ := repelling 2 .cubic Kernel.lineSettings Kernel.lineKernel Kernel.create_lineKernel
    loadedPair rows found loadedRow (loadedRow_mem found) loadedPair_material loadedPair_pressed
    wholeEvaluator .adami loadedPair_completes
  exact absurd (pressureContribution_loadedPair.1.symm.trans_le onI) (by norm_num)

end Evaluator

end ParticleMomentum
