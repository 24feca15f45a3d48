import ParticleMomentum.Proofs.Evaluation.MomentumEquation
import ParticleMomentum.Proofs.Exact.Scenarios

/-!
# Conservation of momentum

In exact arithmetic an evaluation does not change the total momentum, if all particles are owned and the
kernel has the same slope on both sides of each pair. Both sides of a pair are driven by one flux, with
opposite signs and with coefficients that are in inverse ratio to the masses; so each pair by itself
contributes no momentum. A scenario starts from accelerations that are zero, so the rate that it reports
is zero.
-/

namespace ParticleMomentum

variable {n : Nat} {scheme : Scheme} {plan : Plan ℝ}

namespace Equation

variable {p : Sides (Particle ℝ)} {row : PairRow n ℝ}

/-! ## One pair -/

/-- What drives both sides of a pair, before it is scaled by their coefficients. -/
noncomputable def flux (scheme : Scheme) (plan : Plan ℝ) (p : Sides (Particle ℝ))
    (row : PairRow n ℝ) : Vector3 ℝ :=
  -(pressureFactor scheme p • row.direction) + shearVector scheme plan p row +
    if plan.transport then transportPart scheme row p.i + transportPart scheme row p.j else 0

theorem acceleration_i :
    acceleration scheme plan p row .i = (coefficient scheme p row).i • flux scheme plan p row := by
  rw [flux, smul_add, smul_add, smul_neg, smul_smul, smul_ite, smul_zero, ← neg_smul]
  rfl

theorem acceleration_j :
    acceleration scheme plan p row .j =
      -((coefficient scheme p row).j • flux scheme plan p row) := by
  rw [flux, smul_add, smul_add, smul_neg, smul_smul, smul_ite, smul_zero, neg_add, neg_add, neg_neg]
  cases ht : plan.transport <;> simp [acceleration, ht, pressure, shear, transport, Sides.get]

/-- The coefficients of a pair are in inverse ratio to the masses. -/
theorem mass_mul_coefficient (slopes : row.slope.i = row.slope.j)
    (masses : scheme = .adami → p.i.mass ≠ 0 ∧ p.j.mass ≠ 0) :
    p.i.mass * (coefficient scheme p row).i = p.j.mass * (coefficient scheme p row).j := by
  cases scheme with
  | monaghan =>
      simp only [coefficient, slopes]
      ring
  | adami =>
      obtain ⟨hi, hj⟩ := masses rfl
      simp only [coefficient, slopes]
      rw [mul_div_cancel₀ _ hi, mul_div_cancel₀ _ hj]

/-- A pair contributes no momentum. -/
theorem momentum_balance (slopes : row.slope.i = row.slope.j)
    (masses : scheme = .adami → p.i.mass ≠ 0 ∧ p.j.mass ≠ 0) :
    p.i.mass • acceleration scheme plan p row .i + p.j.mass • acceleration scheme plan p row .j =
      0 := by
  rw [acceleration_i, acceleration_j, smul_neg, smul_smul, smul_smul,
    mass_mul_coefficient slopes masses, add_neg_cancel]

end Equation

/-! ## Evaluations -/

namespace Evaluator

variable {ev : Evaluator ℝ} {e : Ensemble n ℝ} {rows : List (PairRow n ℝ)}
variable {modified : Sides (Option (List ℝ))} {inputs : List (PairInput n ℝ)}

/-- An evaluation that completes has come upon no zero divisor, on any pair with an owned particle. -/
theorem Completes.admits
    (h : ev.Completes (FormulationClass.ofScheme scheme) plan rows modified e inputs)
    {row : PairRow n ℝ} (hmem : row ∈ rows)
    (touched : ((e.sides row).i.owned || (e.sides row).j.owned) = true) :
    scheme.Admits (e.sides row) := by
  have same := h.sweep_stepwise Arithmetic.mul_one_literal
  have hs : _ = Except.ok () := (congrArg Prod.snd same).trans h.sweep
  rw [← map_row_inputs h.inputs_eq] at hmem
  obtain ⟨input, given, rfl⟩ := List.mem_map.mp hmem
  exact Stepwise.admits_of_pair touched (Ensemble.sweep_eq_ok_iff.mp hs input given)

/-- An evaluation that completes adds no momentum. -/
theorem Completes.momentum
    (h : ev.Completes (FormulationClass.ofScheme scheme) plan rows modified e inputs)
    (slopes : ∀ row ∈ rows, row.slope.i = row.slope.j)
    (owned : ∀ k : Fin n, e.particles[k].owned = true) :
    let after := (ev.evaluate (FormulationClass.ofScheme scheme) rows modified e).2
    ∑ k : Fin n, after.particles[k].mass • after.particles[k].acceleration =
      ∑ k : Fin n, e.particles[k].mass • e.particles[k].acceleration := by
  intro after
  have received := h.sum_acceleration owned
    (fun q => DistribSMul.toAddMonoidHom (Vector3 ℝ) q.mass) fun _ _ => rfl
  refine received.trans (add_eq_left.mpr (Finset.sum_eq_zero fun p _ => ?_))
  have touched : ((e.sides rows[p]).i.owned || (e.sides rows[p]).j.owned) = true :=
    Bool.or_eq_true_iff.mpr (.inl (owned _))
  exact Equation.momentum_balance (slopes _ (List.getElem_mem _))
    (h.admits (List.getElem_mem _) touched).mass

end Evaluator

/-! ## Scenarios -/

namespace Ensemble

theorem momentumRate_eq_sum (e : Ensemble n ℝ) :
    e.momentumRate = ∑ k : Fin n, e.particles[k].mass • e.particles[k].acceleration := by
  have ordered : e.particles.toList = List.ofFn fun k : Fin n => e.particles[k] := by
    apply List.ext_getElem
    · simp
    · intro i _ _
      rw [List.getElem_ofFn]
      exact Vector.getElem_toList _
  rw [← List.sum_ofFn,
    List.ofFn_comp' (fun k : Fin n => e.particles[k]) fun q => q.mass • q.acceleration, ← ordered,
    List.sum_eq_foldl, List.foldl_map, momentumRate, ← Vector.foldl_toList]
  rfl

end Ensemble

namespace Scenario

variable {settings : Settings ℝ} {draw : Draws ℝ} {summary : Summary ℝ}

theorem momentumRate_of_evaluate {ev : Evaluator ℝ} {kernel : Kernel ℝ} {id : Option (Setting ℝ)}
    {l : CubicLattice ℝ}
    (h : (evaluate ev (FormulationClass.ofScheme scheme) kernel id l draw).result = .ok summary) :
    summary.momentumRate = 0 := by
  obtain ⟨rows, hrows, h⟩ := Trail.bind_result_eq_ok h
  obtain ⟨⟨⟩, -, h⟩ := Trail.bind_result_eq_ok h
  obtain ⟨⟨⟩, completes, h⟩ := Trail.bind_result_eq_ok h
  obtain ⟨plan, hp⟩ := Evaluator.exists_plan_of_evaluate_eq_ok completes
  obtain ⟨inputs, hc⟩ := Evaluator.completes_of_evaluate_eq_ok hp completes
  have owned (k : Fin l.size) : (l.cleared draw).particles[k].owned = true := by
    rw [l.cleared_particle]
    rfl
  have conserved := hc.momentum (fun _ => Neighbours.slope_eq_of_mem_rows hrows) owned
  cases h
  rw [Ensemble.momentumRate_eq_sum]
  refine conserved.trans (Finset.sum_eq_zero fun k _ => ?_)
  change (l.cleared draw).particles[k].mass • (l.cleared draw).particles[k].acceleration = 0
  rw [l.cleared_particle, smul_zero]

/-- A scenario that returns has run its evaluation with a formulation from the catalogue. -/
theorem exists_evaluate_of_run (h : (run settings draw).result = .ok summary) :
    ∃ scheme ev kernel id l,
      (evaluate ev (FormulationClass.ofScheme scheme) kernel id l draw).result = .ok summary := by
  obtain ⟨m, hm, h⟩ := Trail.bind_result_eq_ok h
  have fresh : m.HasRegistered := Manager.hasRegistered_of_make hm
  have ensured : Procedure.Ensures Manager.HasRegistered (run.underManager settings draw)
      fun summary _ => ∃ scheme ev kernel id l,
        (evaluate ev (FormulationClass.ofScheme scheme) kernel id l draw).result = .ok summary := by
    refine Manager.getEvaluator_ensures.bind fun bound => ?_
    refine Procedure.Ensures.liftExcept_bind fun lattice _ => ?_
    refine Manager.getKernel_ensures.bind fun kernel => ?_
    refine Manager.getFormulation_ensures.bind fun formulation => ?_
    refine Procedure.Ensures.state_bind fun m hm => ?_
    obtain ⟨⟨scheme, hk⟩, -⟩ := hm
    intro s _ summary hs
    rw [hk] at hs
    exact ⟨scheme, _, _, _, _, hs⟩
  exact ensured m fresh summary h

end Scenario

/-- Momentum is conserved. An evaluation that completes leaves the sum of mass times acceleration over
all particles as it was, if all particles are owned and the kernel has the same slope on both sides of
each pair. The rate of the momentum that a scenario reports is zero. -/
theorem momentum_conserved :
    (∀ (n : Nat) (ev : Evaluator ℝ) (scheme : Scheme) (rows : List (PairRow n ℝ))
      (modified : Sides (Option (List ℝ))) (e : Ensemble n ℝ),
      (∀ row ∈ rows, row.slope.i = row.slope.j) → (∀ k : Fin n, e.particles[k].owned = true) →
      (ev.evaluate (FormulationClass.ofScheme scheme) rows modified e).1.result = .ok () →
      let after := (ev.evaluate (FormulationClass.ofScheme scheme) rows modified e).2
      ∑ k : Fin n, after.particles[k].mass • after.particles[k].acceleration =
        ∑ k : Fin n, e.particles[k].mass • e.particles[k].acceleration) ∧
    ∀ (settings : Settings ℝ) (draw : Draws ℝ) (summary : Summary ℝ),
      (Scenario.run settings draw).result = .ok summary → summary.momentumRate = Vector3.zero := by
  constructor
  · intro n ev scheme rows modified e slopes owned completes
    obtain ⟨plan, hp⟩ := Evaluator.exists_plan_of_evaluate_eq_ok completes
    obtain ⟨inputs, h⟩ := Evaluator.completes_of_evaluate_eq_ok hp completes
    exact h.momentum slopes owned
  · intro settings draw summary returns
    obtain ⟨scheme, ev, kernel, id, l, h⟩ := Scenario.exists_evaluate_of_run returns
    exact Scenario.momentumRate_of_evaluate h

open Evaluator in
theorem momentum_conserved_loadedPair :
    (let after := (wholeEvaluator.evaluate (FormulationClass.ofScheme .adami) [loadedRow] ⟨none, none⟩
        loadedPair).2
      ∑ k : Fin 2, after.particles[k].mass • after.particles[k].acceleration =
        ∑ k : Fin 2, loadedPair.particles[k].mass • loadedPair.particles[k].acceleration) ∧
    ∃ summary, (Scenario.run Settings.defaults fun _ => (0 : ℝ)).result = .ok summary ∧
      summary.momentumRate = Vector3.zero := by
  have slopes : ∀ row ∈ [loadedRow], row.slope.i = row.slope.j := by
    intro row hmem
    rw [List.mem_singleton.mp hmem]
    rfl
  have unit : ∀ k < 4 * 6 ^ 3, (0 : ℝ) ∈ Set.Icc (0 : ℝ) 1 := fun _ _ => ⟨le_rfl, zero_le_one⟩
  obtain ⟨summary, returns⟩ := Scenario.run_defaults_ends unit
  constructor
  · exact momentum_conserved.1 2 wholeEvaluator .adami [loadedRow] ⟨none, none⟩ loadedPair slopes
      loadedPair_owned loadedPair_completes
  · exact ⟨summary, returns, momentum_conserved.2 Settings.defaults _ summary returns⟩

end ParticleMomentum
