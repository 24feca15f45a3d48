import ParticleMomentum.Proofs.Evaluation.Benches
import ParticleMomentum.Proofs.Evaluation.Dissipation

/-!
# Conservation of angular momentum

Without viscosity and without transport velocities the two particles of a pair are driven along the line
that joins them, in opposite directions and with equal strength. Such forces have no moment, so in exact
arithmetic an evaluation does not change the total angular momentum, if all particles are owned and the
pairs have been found at their positions. Shear would exert a moment, and so would the transport
correction.
-/

namespace ParticleMomentum

/-! ## The vector product -/

namespace Vector3

variable (s : ℝ) (u v w : Vector3 ℝ)

noncomputable def cross : Vector3 ℝ :=
  ⟨v.y * w.z - v.z * w.y, v.z * w.x - v.x * w.z, v.x * w.y - v.y * w.x⟩

theorem cross_add : u.cross (v + w) = u.cross v + u.cross w := by
  ext <;> simp only [cross, x_add, y_add, z_add] <;> ring

theorem cross_smul : v.cross (s • w) = s • v.cross w := by
  ext <;> simp only [cross, x_smul, y_smul, z_smul] <;> ring

theorem cross_comm : v.cross w = -w.cross v := by
  rw [← neg_one_smul ℝ]
  ext <;> simp only [cross, x_smul, y_smul, z_smul] <;> ring

theorem sub_cross : (u - v).cross w = u.cross w - v.cross w := by
  ext <;> simp only [cross, x_sub, y_sub, z_sub] <;> ring

theorem cross_self : v.cross v = 0 := by
  ext <;> simp only [cross, x_zero, y_zero, z_zero] <;> ring

/-- A multiple of the vector product with a vector, as an additive map. -/
noncomputable def crossHom : Vector3 ℝ →+ Vector3 ℝ :=
  AddMonoidHom.mk' (fun w => s • v.cross w) fun u w => by rw [cross_add, smul_add]

end Vector3

variable {n : Nat} {scheme : Scheme} {plan : Plan ℝ}

/-! ## One pair -/

namespace Equation

variable {p : Sides (Particle ℝ)} {row : PairRow n ℝ}

theorem harmonicMean_eq_zero {x : Sides ℝ} (h : x.i ≤ 0) : harmonicMean x = 0 :=
  if_neg fun positive => positive.1.not_ge h

/-- Without viscosity there is no shear. -/
theorem shearVector_inviscid (viscosity : p.i.viscosity ≤ 0)
    (bulk : scheme = .monaghan → p.i.bulkViscosity ≤ 0) : shearVector scheme plan p row = 0 := by
  have shear : harmonicMean (p.map (·.viscosity)) = 0 := harmonicMean_eq_zero viscosity
  cases scheme with
  | monaghan =>
      have bulkMean : harmonicMean (p.map (·.bulkViscosity)) = 0 := harmonicMean_eq_zero (bulk rfl)
      simp only [shearVector, shear, bulkMean]
      simp
  | adami =>
      simp only [shearVector, shear]
      rw [zero_div, zero_smul]

/-- Without viscosity and transport velocities a pair is driven along its direction. -/
theorem flux_inviscid (still : plan.transport = false) (viscosity : p.i.viscosity ≤ 0)
    (bulk : scheme = .monaghan → p.i.bulkViscosity ≤ 0) :
    flux scheme plan p row = -pressureFactor scheme p • row.direction := by
  rw [flux, shearVector_inviscid viscosity bulk, still, if_neg Bool.false_ne_true, add_zero, add_zero,
    neg_smul]

/-- The moments that both sides of a pair receive. -/
noncomputable def torque (scheme : Scheme) (plan : Plan ℝ) (p : Sides (Particle ℝ))
    (row : PairRow n ℝ) : Vector3 ℝ :=
  p.i.mass • p.i.position.cross (acceleration scheme plan p row .i) +
    p.j.mass • p.j.position.cross (acceleration scheme plan p row .j)

/-- A pair that is driven along the line between its particles contributes no angular momentum. -/
theorem torque_eq_zero (slopes : row.slope.i = row.slope.j)
    (masses : scheme = .adami → p.i.mass ≠ 0 ∧ p.j.mass ≠ 0)
    (along : row.distance • row.direction = p.j.position - p.i.position) {strength : ℝ}
    (central : flux scheme plan p row = strength • row.direction) : torque scheme plan p row = 0 := by
  have balance := mass_mul_coefficient slopes masses
  have moment : (p.j.position - p.i.position).cross (flux scheme plan p row) = 0 := by
    rw [← along, central, Vector3.cross_smul, Vector3.cross_comm, Vector3.cross_smul,
      Vector3.cross_self, smul_zero, neg_zero, smul_zero]
  rw [Vector3.sub_cross, sub_eq_zero] at moment
  rw [torque, acceleration_i, acceleration_j, ← neg_smul, Vector3.cross_smul, Vector3.cross_smul,
    smul_smul, smul_smul, mul_neg, balance, neg_smul, moment, add_neg_cancel]

end Equation

/-! ## Evaluations -/

/-- The sum of mass times the vector product of position and acceleration over all particles: the rate of
the angular momentum. -/
noncomputable def Ensemble.torque (e : Ensemble n ℝ) : Vector3 ℝ :=
  ∑ k : Fin n, e.particles[k].mass • e.particles[k].position.cross e.particles[k].acceleration

namespace Evaluator

variable {ev : Evaluator ℝ} {e : Ensemble n ℝ} {rows : List (PairRow n ℝ)}
variable {modified : Sides (Option (List ℝ))} {inputs : List (PairInput n ℝ)}

/-- An evaluation that completes adds the moments of each pair. -/
theorem Completes.torque
    (h : ev.Completes (FormulationClass.ofScheme scheme) plan rows modified e inputs)
    (owned : ∀ k : Fin n, e.particles[k].owned = true) :
    (ev.evaluate (FormulationClass.ofScheme scheme) rows modified e).2.torque =
      e.torque + ∑ p, Equation.torque scheme plan (e.sides (rows.get p)) (rows.get p) :=
  h.sum_acceleration owned (fun q => q.position.crossHom q.mass) fun _ _ => rfl

/-- Angular momentum is conserved. Where the pairs have been found at the positions of the particles, by a
kernel with any history, all particles are owned and without viscosity, and transport velocities are not
corrected for, an evaluation that completes leaves the sum of mass times position times acceleration as
it was. Of bulk viscosities this asks only where the scheme takes them into account. -/
theorem angularMomentum_conserved (kernel : Kernel ℝ) (reachable : kernel.Reachable)
    (e : Ensemble n ℝ) (rows : List (PairRow n ℝ))
    (found : (Neighbours.find kernel e.positions).result = .ok rows) (ev : Evaluator ℝ) (plan : Plan ℝ)
    (planned : ev.plan = some plan) (still : plan.transport = false) (scheme : Scheme)
    (modified : Sides (Option (List ℝ))) (owned : ∀ k : Fin n, e.particles[k].owned = true)
    (inviscid : ∀ k : Fin n, e.particles[k].viscosity ≤ 0)
    (inviscidBulk : scheme = .monaghan → ∀ k : Fin n, e.particles[k].bulkViscosity ≤ 0)
    (completes : (ev.evaluate (FormulationClass.ofScheme scheme) rows modified e).1.result = .ok ()) :
    (ev.evaluate (FormulationClass.ofScheme scheme) rows modified e).2.torque = e.torque := by
  have sound := reachable.sound (Neighbours.searchable_of_find found).1
  cases (Neighbours.find_eq_rowsAt sound e.positions).symm.trans found
  obtain ⟨inputs, h⟩ := completes_of_evaluate_eq_ok planned completes
  rw [h.torque owned]
  refine add_eq_left.mpr (Finset.sum_eq_zero fun p _ => ?_)
  let row := (Neighbours.rowsAt kernel e.positions).get p
  have hmem : row ∈ Neighbours.rowsAt kernel e.positions := List.getElem_mem _
  have measured := Neighbours.measures_of_mem_rowsAt sound hmem
  have slopes : row.slope.i = row.slope.j := (congrArg Sides.j measured.both).symm
  have along : row.distance • row.direction =
      (e.sides row).j.position - (e.sides row).i.position := by
    rw [measured.along, e.positions_particle, e.positions_particle]
    rfl
  have touched : ((e.sides row).i.owned || (e.sides row).j.owned) = true :=
    Bool.or_eq_true_iff.mpr (.inl (owned _))
  exact Equation.torque_eq_zero slopes (h.admits hmem touched).mass along
    (Equation.flux_inviscid still (inviscid _) fun monaghan => inviscidBulk monaghan _)

/-! ## Two particles that press on each other -/

/-- A particle of unit mass and density under pressure, without viscosity, off the axis. -/
noncomputable def pressedParticle (x : ℝ) : Particle ℝ :=
  { (Particle.fresh : Particle ℝ) with position := ⟨x, 1, 0⟩, pressure := 1 }

noncomputable def pressedPair : Ensemble 2 ℝ :=
  ⟨Vector.ofFn fun k : Fin 2 => pressedParticle k.val⟩

theorem pressedPair_particle (k : Fin 2) : pressedPair.particles[k] = pressedParticle k.val :=
  Vector.getElem_ofFn _

theorem pressedPair_material (k : Fin 2) : pressedPair.particles[k].Material := by
  have one : (0 : ℝ) < 1.0 := by norm_num
  rw [pressedPair_particle]
  exact ⟨one, one⟩

theorem pressedPair_inviscid (k : Fin 2) : pressedPair.particles[k].viscosity ≤ 0 := by
  rw [pressedPair_particle]
  exact Arithmetic.zero_literal.le

theorem angularMomentum_conserved_pressedPair :
    let rows := Neighbours.rowsAt Kernel.lineKernel pressedPair.positions
    let run := lineEvaluator.evaluate (FormulationClass.ofScheme .adami) rows ⟨none, none⟩ pressedPair
    run.1.result = .ok () ∧ run.2.torque = pressedPair.torque := by
  intro rows run
  obtain ⟨reachable, ready⟩ := Kernel.reachable_of_create Kernel.create_lineKernel
  have sound := reachable.sound ready
  have owned (k : Fin 2) : pressedPair.particles[k].owned = true := by
    rw [pressedPair_particle]
    rfl
  let plan : Plan ℝ := ⟨.off, false, .fused, Kernel.lineKernel.convectionFactor⟩
  have h : lineEvaluator.Completes (FormulationClass.ofScheme .adami) plan rows ⟨none, none⟩
      pressedPair _ :=
    completes_of_material rfl pressedPair_material (Neighbours.distance_ne_zero_of_mem_rowsAt sound _)
      (inputs_none rows) checkDiffusion_adami
  have completes : run.1.result = .ok () := h.result
  exact ⟨completes, angularMomentum_conserved Kernel.lineKernel reachable pressedPair rows
    (Neighbours.find_eq_rowsAt sound _) lineEvaluator plan rfl rfl .adami ⟨none, none⟩ owned
    pressedPair_inviscid nofun completes⟩

end Evaluator

end ParticleMomentum
