import ParticleMomentum.Proofs.Evaluation.AngularMomentum
import ParticleMomentum.Proofs.Evaluation.Outcomes

/-!
# Uniform pressure

The standard background pressure is the pressure gradient of a uniform field. Both are computed by
different factors: in the Monaghan scheme by the sum of the reciprocal squared densities and by a sum of
pressures over squared densities, in the Adami scheme by no factor at all and by a mean that is weighted
with densities. Where all pressures are equal they come to the same, for each pair and thus for each
particle. So the standard background pressure conserves momentum as the pressure gradient does.
-/

namespace ParticleMomentum

variable {n : Nat} {scheme : Scheme} {plan plan' : Plan ℝ}

structure Particle.SameMatter (q q' : Particle ℝ) : Prop where
  mass : q'.mass = q.mass
  density : q'.density = q.density
  owned : q'.owned = q.owned

/-! ## One pair -/

namespace Equation

variable {p p' : Sides (Particle ℝ)} {row : PairRow n ℝ}

/-- The coefficients of a pair depend on masses and densities only. -/
theorem coefficient_eq_of_sameMatter (hi : p.i.SameMatter p'.i) (hj : p.j.SameMatter p'.j) :
    coefficient scheme p' row = coefficient scheme p row := by
  cases scheme <;> simp only [coefficient, hi.mass, hj.mass, hi.density, hj.density]

/-- The standard background pressure of a pair is its pressure gradient under that pressure. -/
theorem standardBackground_eq_pressure {uniform : ℝ} (admits : scheme.Admits p)
    (hi : p.i.SameMatter p'.i) (hj : p.j.SameMatter p'.j)
    (background : ∀ side, (p.get side).backgroundPressure = uniform)
    (pressures : ∀ side, (p'.get side).pressure = uniform) :
    standardBackground scheme p row = pressure scheme p' row := by
  have backgroundI : p.i.backgroundPressure = uniform := background .i
  have backgroundJ : p.j.backgroundPressure = uniform := background .j
  have pressureI : p'.i.pressure = uniform := pressures .i
  have pressureJ : p'.j.pressure = uniform := pressures .j
  rw [pressure, coefficient_eq_of_sameMatter hi hj]
  cases scheme with
  | monaghan =>
      have factor : pressureFactor .monaghan p' =
          uniform * (1 / p.i.density ^ 2 + 1 / p.j.density ^ 2) := by
        rw [pressureFactor, pressureI, pressureJ, hi.density, hj.density]
        ring
      rw [standardBackground, backgroundI, backgroundJ, factor, ← mul_assoc, ← mul_assoc]
  | adami =>
      have factor : pressureFactor .adami p' = uniform := by
        rw [pressureFactor, pressureI, pressureJ, hi.density, hj.density, ← add_mul,
          mul_div_cancel_left₀ _ (admits.densities rfl)]
      rw [standardBackground, backgroundI, backgroundJ, factor]

/-- Without viscosity and transport velocities the acceleration is the pressure gradient. -/
theorem acceleration_inviscid (still : plan.transport = false) (viscosity : p.i.viscosity ≤ 0)
    (bulk : scheme = .monaghan → p.i.bulkViscosity ≤ 0) (side : Side) :
    acceleration scheme plan p row side = (pressure scheme p row).get side := by
  have shear : (shear scheme plan p row).get side = 0 := by
    rw [Equation.shear, shearVector_inviscid viscosity bulk, smul_zero, smul_zero, neg_zero]
    cases side <;> rfl
  rw [acceleration, shear, still, if_neg Bool.false_ne_true, add_zero, add_zero]

/-- By the standard background pressure a pair gains no momentum. -/
theorem standardBackground_balance {uniform : ℝ} (slopes : row.slope.i = row.slope.j)
    (masses : scheme = .adami → p.i.mass ≠ 0 ∧ p.j.mass ≠ 0)
    (background : ∀ side, (p.get side).backgroundPressure = uniform) :
    p.i.mass • (standardBackground scheme p row).i + p.j.mass • (standardBackground scheme p row).j =
      0 := by
  have backgroundI : p.i.backgroundPressure = uniform := background .i
  have backgroundJ : p.j.backgroundPressure = uniform := background .j
  have balance := mass_mul_coefficient slopes masses
  cases scheme
  all_goals
    simp only [standardBackground, backgroundI, backgroundJ, smul_smul, ← add_smul, mul_neg,
      ← mul_assoc, balance, neg_add_cancel, zero_smul]

end Equation

/-! ## Evaluations -/

namespace Evaluator

variable {ev ev' : Evaluator ℝ} {e e' : Ensemble n ℝ} {rows : List (PairRow n ℝ)}
variable {modified modified' : Sides (Option (List ℝ))} {inputs inputs' : List (PairInput n ℝ)}

/-- What a pair adds to the modified acceleration of a particle by the standard background pressure, it
adds to the acceleration under that pressure. -/
theorem gain_standardBackground {uniform : ℝ} (standard : plan.background = .standard)
    (still : plan'.transport = false)
    (matter : ∀ k : Fin n, e.particles[k].SameMatter e'.particles[k])
    (background : ∀ k : Fin n, e.particles[k].backgroundPressure = uniform)
    (pressures : ∀ k : Fin n, e'.particles[k].pressure = uniform)
    (inviscid : ∀ k : Fin n, e'.particles[k].viscosity ≤ 0)
    (inviscidBulk : scheme = .monaghan → ∀ k : Fin n, e'.particles[k].bulkViscosity ≤ 0)
    {input input' : PairInput n ℝ} (row_eq : input'.row = input.row) (divides : Divides scheme e input)
    (k : Fin n) :
    gain scheme plan e k input .modifiedAcceleration = gain scheme plan' e' k input' .acceleration := by
  have hi : (e.sides input.row).i.SameMatter (e'.sides input.row).i := matter _
  have hj : (e.sides input.row).j.SameMatter (e'.sides input.row).j := matter _
  have sides (side : Side) :
      (if ((e.sides input.row).get side).owned then
        Equation.amount scheme plan (e.sides input.row) input.row input.modifiedSlope
          .modifiedAcceleration side
      else 0) =
      if ((e'.sides input.row).get side).owned then
        Equation.amount scheme plan' (e'.sides input.row) input.row input'.modifiedSlope
          .acceleration side
      else 0 := by
    have owned : ((e'.sides input.row).get side).owned = ((e.sides input.row).get side).owned := by
      cases side
      · exact hi.owned
      · exact hj.owned
    rw [owned]
    cases own : ((e.sides input.row).get side).owned with
    | false => rw [if_neg Bool.false_ne_true, if_neg Bool.false_ne_true]
    | true =>
        have touched : ((e.sides input.row).i.owned || (e.sides input.row).j.owned) = true := by
          rw [Bool.or_eq_true]
          cases side
          · exact .inl own
          · exact .inr own
        have same : Equation.standardBackground scheme (e.sides input.row) input.row =
            Equation.pressure scheme (e'.sides input.row) input.row :=
          Equation.standardBackground_eq_pressure (divides touched) hi hj
            (fun side => by cases side <;> exact background _)
            (fun side => by cases side <;> exact pressures _)
        rw [if_pos rfl, if_pos rfl, Equation.amount, Equation.amount, Equation.modifiedAcceleration,
          standard, same]
        exact (Equation.acceleration_inviscid still (inviscid _)
          (fun monaghan => inviscidBulk monaghan _) side).symm
  rw [gain, gain, row_eq, PairRow.reaching_apply, PairRow.reaching_apply, sides .i, sides .j]

/-- The standard background pressure acts as the pressure gradient of a uniform field. One evaluation
applies a uniform standard background pressure, by either loop. The other one, by either loop too, has
particles of the same masses, densities and ownership under that pressure, without viscosity, and does not
correct for transport velocities. If both complete, each modified acceleration grows by the first as the
acceleration does by the second. So where the kernel has the same slope on both sides of each pair and all
particles are owned, the first one conserves the sum of mass times modified acceleration. -/
theorem standardBackground_acts_as_uniformPressure :
    (∀ (n : Nat) (scheme : Scheme) (ev ev' : Evaluator ℝ) (plan plan' : Plan ℝ)
      (rows : List (PairRow n ℝ)) (modified modified' : Sides (Option (List ℝ))) (e e' : Ensemble n ℝ)
      (uniform : ℝ),
      ev.plan = some plan → plan.background = .standard →
      ev'.plan = some plan' → plan'.transport = false →
      (∀ k : Fin n, e.particles[k].SameMatter e'.particles[k]) →
      (∀ k : Fin n, e.particles[k].backgroundPressure = uniform) →
      (∀ k : Fin n, e'.particles[k].pressure = uniform) →
      (∀ k : Fin n, e'.particles[k].viscosity ≤ 0) →
      (scheme = .monaghan → ∀ k : Fin n, e'.particles[k].bulkViscosity ≤ 0) →
      (ev.evaluate (FormulationClass.ofScheme scheme) rows modified e).1.result = .ok () →
      (ev'.evaluate (FormulationClass.ofScheme scheme) rows modified' e').1.result = .ok () →
      let after := (ev.evaluate (FormulationClass.ofScheme scheme) rows modified e).2
      let after' := (ev'.evaluate (FormulationClass.ofScheme scheme) rows modified' e').2
      ∀ k : Fin n,
        after.particles[k].modifiedAcceleration - e.particles[k].modifiedAcceleration =
          after'.particles[k].acceleration - e'.particles[k].acceleration) ∧
    ∀ (n : Nat) (scheme : Scheme) (ev : Evaluator ℝ) (plan : Plan ℝ) (rows : List (PairRow n ℝ))
      (modified : Sides (Option (List ℝ))) (e : Ensemble n ℝ) (uniform : ℝ),
      ev.plan = some plan → plan.background = .standard →
      (∀ k : Fin n, e.particles[k].backgroundPressure = uniform) →
      (∀ row ∈ rows, row.slope.i = row.slope.j) → (∀ k : Fin n, e.particles[k].owned = true) →
      (ev.evaluate (FormulationClass.ofScheme scheme) rows modified e).1.result = .ok () →
      let after := (ev.evaluate (FormulationClass.ofScheme scheme) rows modified e).2
      ∑ k : Fin n, after.particles[k].mass • after.particles[k].modifiedAcceleration =
        ∑ k : Fin n, e.particles[k].mass • e.particles[k].modifiedAcceleration := by
  constructor
  · intro n scheme ev ev' plan plan' rows modified modified' e e' uniform planned standard planned'
      still matter background pressures inviscid inviscidBulk completes completes' after after' k
    obtain ⟨inputs, h⟩ := completes_of_evaluate_eq_ok planned completes
    obtain ⟨inputs', h'⟩ := completes_of_evaluate_eq_ok planned' completes'
    have grown : after.particles[k] = _ := h.particle_gain k
    have grown' : after'.particles[k] = _ := h'.particle_gain k
    have gains : (inputs.map (gain scheme plan e k)).sum .modifiedAcceleration =
        (inputs'.map (gain scheme plan' e' k)).sum .acceleration := by
      rw [inputs_eq_ofFn h.inputs_eq, inputs_eq_ofFn h'.inputs_eq, List.map_ofFn, List.map_ofFn,
        List.sum_ofFn, List.sum_ofFn, Finset.sum_apply, Finset.sum_apply]
      exact Finset.sum_congr rfl fun p _ => gain_standardBackground standard still matter background
        pressures inviscid inviscidBulk rfl (h.admits (List.getElem_mem _)) k
    rw [grown, grown']
    simp only [Particle.receive, add_sub_cancel_left]
    exact gains
  · intro n scheme ev plan rows modified e uniform planned standard background slopes owned completes
      after
    obtain ⟨inputs, h⟩ := completes_of_evaluate_eq_ok planned completes
    refine (h.sum_accumulator owned .modifiedAcceleration (fun _ _ => rfl)
      (fun q => DistribSMul.toAddMonoidHom (Vector3 ℝ) q.mass) fun _ _ => rfl).trans ?_
    refine add_eq_left.mpr (Finset.sum_eq_zero fun p _ => ?_)
    have touched : ((e.sides rows[p]).i.owned || (e.sides rows[p]).j.owned) = true :=
      Bool.or_eq_true_iff.mpr (.inl (owned _))
    have masses := (h.admits (List.getElem_mem _) touched).mass
    simp only [Equation.amount, Equation.modifiedAcceleration, standard]
    exact Equation.standardBackground_balance (slopes _ (List.getElem_mem _)) masses
      fun side => by cases side <;> exact background _

noncomputable def backgroundEvaluator : Evaluator ℝ :=
  ⟨.null, some ⟨.standard, true, .stepwise, 5⟩, .strict⟩

theorem standardBackground_acts_as_uniformPressure_loadedPair :
    (let after := (backgroundEvaluator.evaluate (FormulationClass.ofScheme .adami) [loadedRow]
        ⟨none, none⟩ loadedPair).2
      let after' := (lineEvaluator.evaluate (FormulationClass.ofScheme .adami) [loadedRow]
        ⟨none, none⟩ pressedPair).2
      ∀ k : Fin 2,
        after.particles[k].modifiedAcceleration - loadedPair.particles[k].modifiedAcceleration =
          after'.particles[k].acceleration - pressedPair.particles[k].acceleration) ∧
    let after := (backgroundEvaluator.evaluate (FormulationClass.ofScheme .adami) [loadedRow]
      ⟨none, none⟩ loadedPair).2
    ∑ k : Fin 2, after.particles[k].mass • after.particles[k].modifiedAcceleration =
      ∑ k : Fin 2, loadedPair.particles[k].mass • loadedPair.particles[k].modifiedAcceleration := by
  have matter (k : Fin 2) : loadedPair.particles[k].SameMatter pressedPair.particles[k] := by
    rw [loadedPair_particle, pressedPair_particle]
    exact ⟨rfl, rfl, rfl⟩
  have background (k : Fin 2) : loadedPair.particles[k].backgroundPressure = 1 := by
    rw [loadedPair_particle]
    rfl
  have pressures (k : Fin 2) : pressedPair.particles[k].pressure = 1 := by
    rw [pressedPair_particle]
    rfl
  have slopes : ∀ row ∈ [loadedRow], row.slope.i = row.slope.j := by
    intro row hmem
    rw [List.mem_singleton.mp hmem]
    rfl
  have h : backgroundEvaluator.Completes (FormulationClass.ofScheme .adami) _ [loadedRow]
      ⟨none, none⟩ loadedPair _ :=
    completes_of_material rfl loadedPair_material loadedRow_apart (inputs_none _) checkDiffusion_adami
  have h' : lineEvaluator.Completes (FormulationClass.ofScheme .adami) _ [loadedRow] ⟨none, none⟩
      pressedPair _ :=
    completes_of_material rfl pressedPair_material loadedRow_apart (inputs_none _) checkDiffusion_adami
  constructor
  · exact standardBackground_acts_as_uniformPressure.1 2 .adami backgroundEvaluator lineEvaluator _ _
      [loadedRow] ⟨none, none⟩ ⟨none, none⟩ loadedPair pressedPair 1 rfl rfl rfl rfl matter background
      pressures pressedPair_inviscid nofun h.result h'.result
  · exact standardBackground_acts_as_uniformPressure.2 2 .adami backgroundEvaluator _ [loadedRow]
      ⟨none, none⟩ loadedPair 1 rfl rfl background slopes loadedPair_owned h.result

end Evaluator

end ParticleMomentum
