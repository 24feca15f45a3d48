import ParticleMomentum.Proofs.Evaluation.Totality
import ParticleMomentum.Proofs.Exact.Terms

/-!
# Evaluations solve the momentum equation

In exact arithmetic an evaluation that completes has added to each owned particle what the momentum
equation has for it: a sum over all pairs in which the particle stands, on either side, by either pair
loop. A particle that is not owned is left as it was.
-/

namespace ParticleMomentum

variable {n : Nat}

namespace Equation

/-- The modified slope on a side of the pair at place `p`. If none are given it is the slope itself. -/
noncomputable def slopeAt (given : Option (List ℝ)) (own : ℝ) (p : Nat) : ℝ :=
  match given with
  | none => own
  | some slopes => slopes.getD p 0

noncomputable def modifiedSlope (rows : List (PairRow n ℝ)) (modified : Sides (Option (List ℝ)))
    (p : Fin rows.length) : Sides ℝ :=
  ⟨slopeAt modified.i rows[p].slope.i p, slopeAt modified.j rows[p].slope.j p⟩

theorem getElem_getD_eq_slopeAt (given : Option (List ℝ)) (own : List ℝ) {p : Nat}
    (inOwn : p < own.length) (h : p < (given.getD own).length) :
    (given.getD own)[p] = slopeAt given own[p] p := by
  cases given with
  | none => rfl
  | some slopes => exact (List.getElem_eq_getD 0)

/-- The sum of a term over all pairs in which a particle stands: the `i` side of the term where it comes
first, and the `j` side where it comes second. -/
noncomputable def sumOver (rows : List (PairRow n ℝ)) (k : Fin n)
    (term : Fin rows.length → Side → Vector3 ℝ) : Vector3 ℝ :=
  ∑ p : Fin rows.length,
    ((if rows[p].particles.i = k then term p .i else 0) +
      (if rows[p].particles.j = k then term p .j else 0))

/-- A sum over all particles, linear in what each has received, takes both sides of each pair once. -/
theorem sum_map_sumOver {M : Type} [AddCommMonoid M] (rows : List (PairRow n ℝ))
    (weight : Fin n → Vector3 ℝ →+ M) (term : Fin rows.length → Side → Vector3 ℝ) :
    ∑ k, weight k (sumOver rows k term) =
      ∑ p : Fin rows.length,
        (weight rows[p].particles.i (term p .i) + weight rows[p].particles.j (term p .j)) := by
  simp only [sumOver, map_sum, map_add]
  rw [Finset.sum_comm]
  refine Finset.sum_congr rfl fun p _ => ?_
  rw [Finset.sum_add_distrib]
  congr 1 <;>
  · refine (Finset.sum_eq_single_of_mem _ (Finset.mem_univ _) fun k _ other => ?_).trans
      (congrArg _ (if_pos rfl))
    rw [if_neg other.symm, map_zero]

end Equation

namespace Evaluator

variable {ev : Evaluator ℝ} {scheme : Scheme} {plan : Plan ℝ} {e : Ensemble n ℝ}
variable {rows : List (PairRow n ℝ)} {modified : Sides (Option (List ℝ))}
variable {inputs : List (PairInput n ℝ)}

/-- The pairs of an evaluation are the rows with their modified slopes, in order. -/
theorem inputs_eq_ofFn (h : Evaluator.inputs rows modified = .ok inputs) :
    inputs = List.ofFn fun p : Fin rows.length =>
      ⟨rows[p], Equation.modifiedSlope rows modified p⟩ := by
  rw [Evaluator.inputs] at h
  split at h
  · cases h
  · next fits =>
    simp only [not_or, not_not] at fits
    obtain ⟨lengthI, lengthJ⟩ := fits
    cases h
    apply List.ext_getElem
    · simp [lengthI, lengthJ]
    · intro p _ hp
      rw [List.length_ofFn] at hp
      simp only [List.getElem_map, List.getElem_zip, List.getElem_ofFn]
      rw [Equation.getElem_getD_eq_slopeAt _ _ (by rwa [List.length_map]),
        Equation.getElem_getD_eq_slopeAt _ _ (by rwa [List.length_map]), List.getElem_map,
        List.getElem_map]
      rfl

/-- How a particle comes out of an evaluation that completes. -/
theorem Completes.particle
    (h : ev.Completes (FormulationClass.ofScheme scheme) plan rows modified e inputs) (k : Fin n) :
    (ev.evaluate (FormulationClass.ofScheme scheme) rows modified e).2.particles[k] =
      e.particles[k].receive (inputs.map fun input => input.row.reaching k fun target side =>
        if ((e.sides input.row).get side).owned then
          Equation.amount scheme plan (e.sides input.row) input.row input.modifiedSlope target side
        else 0).sum := by
  have same := h.sweep_stepwise Arithmetic.mul_one_literal
  have hs : _ = Except.ok () := (congrArg Prod.snd same).trans h.sweep
  rw [h.evaluate_eq, ← same]
  exact Ensemble.particle_sweep e k (fun input _ => Stepwise.addsUpTo_pair) hs

/-- What reaches an owned particle of the owned sides of a pair is what stands on its sides. -/
theorem reaching_owned {row : PairRow n ℝ} {k : Fin n} (owned : e.particles[k].owned = true)
    (g : Target → Side → Vector3 ℝ) :
    (row.reaching k fun target side => if ((e.sides row).get side).owned then g target side else 0) =
      row.reaching k g := by
  funext target
  rw [PairRow.reaching_apply, PairRow.reaching_apply]
  congr 1
  · by_cases h : row.particles.i = k
    · have : ((e.sides row).get .i).owned = true := by
        subst h
        exact owned
      rw [if_pos h, if_pos h, if_pos this]
    · rw [if_neg h, if_neg h]
  · by_cases h : row.particles.j = k
    · have : ((e.sides row).get .j).owned = true := by
        subst h
        exact owned
      rw [if_pos h, if_pos h, if_pos this]
    · rw [if_neg h, if_neg h]

/-- An owned particle has received the terms of the momentum equation, summed over its pairs. -/
theorem Completes.owned_particle
    (h : ev.Completes (FormulationClass.ofScheme scheme) plan rows modified e inputs) {k : Fin n}
    (owned : e.particles[k].owned = true) :
    (ev.evaluate (FormulationClass.ofScheme scheme) rows modified e).2.particles[k] =
      e.particles[k].receive fun target => Equation.sumOver rows k fun p =>
        Equation.amount scheme plan (e.sides rows[p]) rows[p]
          (Equation.modifiedSlope rows modified p) target := by
  rw [h.particle, inputs_eq_ofFn h.inputs_eq, List.map_ofFn, List.sum_ofFn]
  congr 1
  funext target
  rw [Finset.sum_apply]
  refine Finset.sum_congr rfl fun p _ => ?_
  exact congrFun (reaching_owned owned _) target

/-- A sum over all particles that is linear in one of their accumulators, and else reads nothing that an
evaluation writes, grows by both sides of each pair, if all particles are owned. -/
theorem Completes.sum_accumulator {M : Type} [AddCommMonoid M]
    (h : ev.Completes (FormulationClass.ofScheme scheme) plan rows modified e inputs)
    (owned : ∀ k : Fin n, e.particles[k].owned = true) (target : Target)
    {value : Particle ℝ → Vector3 ℝ}
    (grows : ∀ q g, value (Particle.receive q g) = value q + g target)
    (weight : Particle ℝ → Vector3 ℝ →+ M)
    (kept : ∀ q g, weight (Particle.receive q g) = weight q) :
    let after := (ev.evaluate (FormulationClass.ofScheme scheme) rows modified e).2
    let amount (p : Fin rows.length) := Equation.amount scheme plan (e.sides (rows.get p)) (rows.get p)
      (Equation.modifiedSlope rows modified p) target
    ∑ k : Fin n, weight after.particles[k] (value after.particles[k]) =
      ∑ k : Fin n, weight e.particles[k] (value e.particles[k]) +
        ∑ p, (weight (e.sides (rows.get p)).i (amount p .i) +
          weight (e.sides (rows.get p)).j (amount p .j)) := by
  intro after amount
  have received (k : Fin n) : after.particles[k] = _ := h.owned_particle (owned k)
  have summed := Equation.sum_map_sumOver rows (fun k => weight e.particles[k]) amount
  refine Eq.trans ?_ (congrArg _ summed)
  rw [← Finset.sum_add_distrib]
  refine Finset.sum_congr rfl fun k _ => ?_
  rw [received, kept, grows, map_add]
  rfl

/-- The same of a sum that is linear in the accelerations. -/
theorem Completes.sum_acceleration {M : Type} [AddCommMonoid M]
    (h : ev.Completes (FormulationClass.ofScheme scheme) plan rows modified e inputs)
    (owned : ∀ k : Fin n, e.particles[k].owned = true) (weight : Particle ℝ → Vector3 ℝ →+ M)
    (kept : ∀ q g, weight (Particle.receive q g) = weight q) :
    let after := (ev.evaluate (FormulationClass.ofScheme scheme) rows modified e).2
    ∑ k : Fin n, weight after.particles[k] after.particles[k].acceleration =
      ∑ k : Fin n, weight e.particles[k] e.particles[k].acceleration +
        ∑ p, (weight (e.sides (rows.get p)).i
            (Equation.acceleration scheme plan (e.sides (rows.get p)) (rows.get p) .i) +
          weight (e.sides (rows.get p)).j
            (Equation.acceleration scheme plan (e.sides (rows.get p)) (rows.get p) .j)) :=
  h.sum_accumulator owned .acceleration (fun _ _ => rfl) weight kept

/-- An evaluation that completes solves the momentum equation: the acceleration of an owned particle is
its old value plus the sum of the pressure, shear and transport terms over its pairs, and its modified
acceleration is its old value plus the sum of the terms of the background pressure. -/
theorem evaluate_solves_momentumEquation (ev : Evaluator ℝ) (plan : Plan ℝ)
    (planned : ev.plan = some plan) (scheme : Scheme) (rows : List (PairRow n ℝ))
    (modified : Sides (Option (List ℝ))) (e : Ensemble n ℝ)
    (completes : (ev.evaluate (FormulationClass.ofScheme scheme) rows modified e).1.result = .ok ())
    (k : Fin n) (owned : e.particles[k].owned = true) :
    let after := (ev.evaluate (FormulationClass.ofScheme scheme) rows modified e).2.particles[k]
    after.acceleration = e.particles[k].acceleration +
        Equation.sumOver rows k
          (fun p => Equation.acceleration scheme plan (e.sides rows[p]) rows[p]) ∧
      after.modifiedAcceleration = e.particles[k].modifiedAcceleration +
        Equation.sumOver rows k
          (fun p => Equation.modifiedAcceleration scheme plan (e.sides rows[p]) rows[p]
            (Equation.modifiedSlope rows modified p)) := by
  intro after
  obtain ⟨inputs, h⟩ := completes_of_evaluate_eq_ok planned completes
  have hk : after = _ := h.owned_particle owned
  rw [hk]
  exact ⟨rfl, rfl⟩

theorem evaluate_solves_momentumEquation_loadedPair :
    let after := (wholeEvaluator.evaluate (FormulationClass.ofScheme .adami) [loadedRow] ⟨none, none⟩
      loadedPair).2.particles[(0 : Fin 2)]
    after.acceleration = loadedPair.particles[(0 : Fin 2)].acceleration +
        Equation.sumOver [loadedRow] 0
          (fun p => Equation.acceleration .adami wholePlan (loadedPair.sides [loadedRow][p])
            [loadedRow][p]) ∧
      after.modifiedAcceleration = loadedPair.particles[(0 : Fin 2)].modifiedAcceleration +
        Equation.sumOver [loadedRow] 0
          (fun p => Equation.modifiedAcceleration .adami wholePlan (loadedPair.sides [loadedRow][p])
            [loadedRow][p] (Equation.modifiedSlope [loadedRow] ⟨none, none⟩ p)) :=
  evaluate_solves_momentumEquation wholeEvaluator wholePlan rfl .adami [loadedRow] ⟨none, none⟩
    loadedPair loadedPair_completes 0 (loadedPair_owned 0)

end Evaluator

end ParticleMomentum
