import ParticleMomentum.Proofs.Evaluation.Backends
import ParticleMomentum.Proofs.Exact.Reals

/-!
# Evaluations of sound data complete

In exact arithmetic a pair meets no fault in the fused loop if none of the divisors of its scheme is zero
and its particles do not coincide. So an evaluation completes if all masses and densities are positive, no
two particles of a pair coincide, no pair has a negative diffusion coefficient where that matters, and
modified slopes fit the pairs. It is enough to see this for the fused loop, which the stepwise loop
refines.
-/

namespace ParticleMomentum

open Arithmetic

structure Particle.Material (q : Particle ℝ) : Prop where
  mass_pos : 0 < q.mass
  density_pos : 0 < q.density

/-- No divisor that a scheme has for two particles is zero: neither density and, for the Adami scheme,
neither mass and not the sum of the densities. -/
structure Scheme.Admits (scheme : Scheme) (p : Sides (Particle ℝ)) : Prop where
  density : p.i.density ≠ 0 ∧ p.j.density ≠ 0
  mass : scheme = .adami → p.i.mass ≠ 0 ∧ p.j.mass ≠ 0
  densities : scheme = .adami → p.i.density + p.j.density ≠ 0

theorem Scheme.admits_of_material (scheme : Scheme) {p : Sides (Particle ℝ)} (hi : p.i.Material)
    (hj : p.j.Material) : scheme.Admits p where
  density := ⟨hi.density_pos.ne', hj.density_pos.ne'⟩
  mass _ := ⟨hi.mass_pos.ne', hj.mass_pos.ne'⟩
  densities _ := (add_pos hi.density_pos hj.density_pos).ne'

theorem DivisionRule.exists_quotient {rule : DivisionRule} {x y : ℝ} (h : y ≠ 0) :
    ∃ q, (rule.quotient x y : Except (Fault ℝ) ℝ) = .ok q := by
  cases rule with
  | strict => exact Arithmetic.exists_quotient h
  | extended => exact ⟨_, rfl⟩

theorem Monaghan.exists_combined {s : ℝ} (hs : 0 < s) (viscosity : Sides ℝ) :
    ∃ x, combined s viscosity = .ok x := by
  rw [combined, zero_literal]
  split
  · next h => exact exists_quotient (mul_pos hs (add_pos h.1 h.2)).ne'
  · exact ⟨_, rfl⟩

theorem Monaghan.exists_combinedBulk (viscosity : Sides ℝ) :
    ∃ x, combinedBulk viscosity = .ok x := by
  rw [combinedBulk, zero_literal]
  split
  · next h => exact exists_quotient (add_pos h.1 h.2).ne'
  · exact ⟨_, rfl⟩

theorem Monaghan.exists_shearCoefficients (k : ℝ) (viscosity bulkViscosity : Sides ℝ) :
    ∃ shear, shearCoefficients k viscosity bulkViscosity = .ok shear := by
  obtain ⟨scaled, hs⟩ := exists_combined (show (0 : ℝ) < 3.0 by norm_num) viscosity
  obtain ⟨bulk, hb⟩ := exists_combinedBulk bulkViscosity
  exact ⟨_, by rw [shearCoefficients, hs, hb]; rfl⟩

theorem Adami.exists_meanViscosity {viscosity : Sides ℝ} :
    ∃ x, meanViscosity viscosity = .ok x := by
  rw [meanViscosity]
  split
  · next h =>
    rw [isViscous, zero_literal, Bool.and_eq_true, decide_eq_true_iff, decide_eq_true_iff] at h
    exact exists_quotient (add_pos h.1 h.2).ne'
  · exact ⟨_, rfl⟩

namespace Fused

open Trail (Ends)

variable {n : Nat} {p : Sides (Particle ℝ)} {scheme : Scheme} {rule : DivisionRule}

theorem exists_coefficients (admits : scheme.Admits p) (slope : Sides ℝ) :
    ∃ c, coefficients (branch scheme) (p.map (·.density)) (p.map (·.mass)) slope = .ok c := by
  obtain ⟨densityI, densityJ⟩ := admits.density
  cases scheme with
  | monaghan => exact ⟨_, rfl⟩
  | adami =>
      obtain ⟨massI, massJ⟩ := admits.mass rfl
      rw [coefficients_eq]
      simp only [Scheme.coefficients, Adami.coefficients, Sides.map]
      rw [quotient_real densityI, quotient_real densityJ, quotient_real massI, quotient_real massJ]
      exact ⟨_, rfl⟩

theorem exists_pressureFactor (admits : scheme.Admits p) :
    ∃ f, pressureFactor (branch scheme) (p.map (·.density)) (p.map (·.pressure)) = .ok f := by
  obtain ⟨densityI, densityJ⟩ := admits.density
  cases scheme with
  | monaghan =>
      simp only [pressureFactor, branch_monaghan, if_true, Monaghan.pressureFactor, Sides.map]
      rw [quotient_real (mul_self_ne_zero.mpr densityI), quotient_real (mul_self_ne_zero.mpr densityJ)]
      exact ⟨_, rfl⟩
  | adami => exact exists_quotient (admits.densities rfl)

theorem shearOn_ends (densities : p.i.density ≠ 0 ∧ p.j.density ≠ 0) {distance : ℝ}
    (apart : distance ≠ 0) (side : Side) (c : ℝ) (shear : Monaghan.ShearCoefficients ℝ)
    (direction : Vector3 ℝ) :
    ((Monaghan.shearOn side c shear (p.map (·.density)) distance (p.i.velocity - p.j.velocity)
      direction).into .acceleration).Ends := by
  have divisor := mul_ne_zero (mul_ne_zero densities.1 densities.2) apart
  simp only [Monaghan.shearOn, Monaghan.shearParts, Sides.map, quotient_real divisor]
  exact Ends.ok _ ()

theorem shear_ends (densities : p.i.density ≠ 0 ∧ p.j.density ≠ 0) {distance : ℝ}
    (apart : distance ≠ 0) (k : ℝ) (c : Sides ℝ) (direction : Vector3 ℝ) :
    (shear (branch scheme) rule k p distance c direction).Ends := by
  cases scheme with
  | monaghan =>
      refine (Ends.lift (Monaghan.exists_shearCoefficients _ _ _)).bind fun shear _ => ?_
      exact ((shearOn_ends densities apart _ _ _ _).guarded _).bind fun _ _ =>
        (shearOn_ends densities apart _ _ _ _).guarded _
  | adami =>
      simp only [shear, branch_adami]
      cases Adami.isViscous (p.map (·.viscosity))
      · exact Ends.ok _ ()
      · refine (Ends.lift Adami.exists_meanViscosity).bind fun mean _ => ?_
        refine (Ends.lift (DivisionRule.exists_quotient apart)).bind fun factor _ => ?_
        exact addBoth_ends _ _ _ _

theorem background_ends (densities : p.i.density ≠ 0 ∧ p.j.density ≠ 0) (kind : Background)
    (c modifiedSlope : Sides ℝ) (direction : Vector3 ℝ) :
    (background (branch scheme) kind p c modifiedSlope direction).Ends := by
  have squareI := mul_self_ne_zero.mpr densities.1
  have squareJ := mul_self_ne_zero.mpr densities.2
  cases kind with
  | off => exact Ends.ok _ ()
  | standard =>
      refine Ends.bind (Ends.lift ?_) fun factor _ => addBoth_ends _ _ _ _
      cases scheme with
      | monaghan =>
          simp only [background.standardFactor, branch_monaghan, if_true, Monaghan.backgroundFactor,
            Sides.map]
          rw [quotient_real squareI, quotient_real squareJ]
          exact ⟨_, rfl⟩
      | adami => exact ⟨_, rfl⟩
  | generalized =>
      refine Ends.bind (Ends.lift ?_) fun factors _ => addBoth_ends _ _ _ _
      cases scheme with
      | monaghan =>
          simp only [background.generalizedFactors, branch_monaghan, if_true,
            Monaghan.generalizedBackground]
          rw [quotient_real squareI, quotient_real squareJ]
          exact ⟨_, rfl⟩
      | adami =>
          simp only [background.generalizedFactors, branch_adami, Bool.false_eq_true, if_false,
            Adami.generalizedBackground]
          rw [quotient_real squareI, quotient_real squareJ]
          exact ⟨_, rfl⟩

/-- A pair of two particles that do not coincide meets no fault in the fused loop, if the scheme divides by
no zero for it or none of the two is owned. -/
theorem pair_ends (admits : (p.i.owned || p.j.owned) = true → scheme.Admits p) {plan : Plan ℝ}
    {input : PairInput n ℝ} (apart : input.row.distance ≠ 0) :
    (pair (FormulationClass.ofScheme scheme).number rule plan p input).Ends := by
  rw [pair]
  cases touched : (p.i.owned || p.j.owned) with
  | false => exact Ends.ok _ ()
  | true =>
      have admitted := admits touched
      have nonzero {q : Particle ℝ} (h : q.density ≠ 0) : isZero q.density = false := by
        rwa [← Bool.not_eq_true, isZero_real_iff]
      refine Ends.guarded _ ?_
      refine (Ends.lift (exists_coefficients admitted _)).bind fun c _ => ?_
      refine Ends.bind ?_ fun _ _ => ?_
      · exact (Ends.lift (exists_pressureFactor admitted)).bind fun f _ => addBoth_ends _ _ _ _
      refine (shear_ends admitted.density apart _ _ _).bind fun _ _ => ?_
      refine (background_ends admitted.density _ _ _ _).bind fun _ _ => ?_
      exact (transport_ends (fun _ => admitted.density.imp nonzero nonzero) _ _ _).guarded _

end Fused

/-- A pair with an owned particle that meets no fault in the stepwise loop has no divisor that is zero. -/
theorem Stepwise.admits_of_pair {n : Nat} {scheme : Scheme} {plan : Plan ℝ}
    {p : Sides (Particle ℝ)} {input : PairInput n ℝ}
    (touched : (p.i.owned || p.j.owned) = true)
    (completes : (pair scheme plan p input).result = .ok ()) : scheme.Admits p := by
  rw [pair, touched, Trail.guarded_true] at completes
  obtain ⟨c, hc, rest⟩ := Trail.bind_result_eq_ok completes
  obtain ⟨⟨⟩, gradient, -⟩ := Trail.bind_result_eq_ok rest
  rw [Fused.pressureGradient_eq] at gradient
  obtain ⟨factor, hf, -⟩ := Trail.bind_result_eq_ok gradient
  cases scheme with
  | monaghan =>
      -- the pressure gradient divides by both squared densities
      have divided : Monaghan.pressureFactor (p.map (·.density)) (p.map (·.pressure)) = .ok factor := hf
      simp only [Monaghan.pressureFactor, bind_eq_ok_iff, quotient_real_eq_ok_iff] at divided
      obtain ⟨_, ⟨squareI, -⟩, _, ⟨squareJ, -⟩, -⟩ := divided
      exact ⟨⟨mul_self_ne_zero.mp squareI, mul_self_ne_zero.mp squareJ⟩, nofun, nofun⟩
  | adami =>
      -- the coefficients divide by densities and masses, the pressure gradient by the sum of the former
      have scaled : Adami.coefficients (p.map (·.density)) (p.map (·.mass)) input.row.slope = .ok c := hc
      have divided : Adami.pressureFactor (p.map (·.density)) (p.map (·.pressure)) = .ok factor := hf
      simp only [Adami.coefficients, bind_eq_ok_iff, quotient_real_eq_ok_iff] at scaled
      obtain ⟨_, ⟨densityI, -⟩, _, ⟨densityJ, -⟩, _, ⟨massI, -⟩, _, ⟨massJ, -⟩, -⟩ := scaled
      exact ⟨⟨densityI, densityJ⟩, fun _ => ⟨massI, massJ⟩,
        fun _ => (quotient_real_eq_ok_iff.mp divided).1⟩

namespace Evaluator

variable {n : Nat} {ev : Evaluator ℝ} {scheme : Scheme} {plan : Plan ℝ} {e : Ensemble n ℝ}
variable {rows : List (PairRow n ℝ)} {modified : Sides (Option (List ℝ))}
variable {inputs : List (PairInput n ℝ)} {input : PairInput n ℝ}

/-- Once the diffusion coefficients have been checked, a pair of two particles that do not coincide meets
no fault in either loop, if the scheme divides by no zero for it or none of the two is owned. -/
theorem contributions_eq_ok
    (check : (checkDiffusion (FormulationClass.ofScheme scheme) plan.convectionFactor e
      rows).result = .ok ())
    (hmem : input.row ∈ rows) (apart : input.row.distance ≠ 0)
    (admits : ((e.sides input.row).i.owned || (e.sides input.row).j.owned) = true →
      scheme.Admits (e.sides input.row)) (rule : DivisionRule) :
    (contributions (FormulationClass.ofScheme scheme) plan rule e input).result = .ok () := by
  have ends : (Fused.pair (FormulationClass.ofScheme scheme).number rule plan (e.sides input.row)
      input).result = .ok () := (Fused.pair_ends admits apart).result_eq
  rw [contributions]
  cases plan.backend with
  | fused => exact ends
  | stepwise =>
      have same := pair_refinedBy_of_check mul_one_literal check _ _ hmem () ends
      cases scheme <;> exact (congrArg Trail.result same).trans ends

/-- An evaluation of sound data completes, by either pair loop. -/
theorem completes_of_material (planned : ev.plan = some plan)
    (materials : ∀ k : Fin n, e.particles[k].Material) (apart : ∀ row ∈ rows, row.distance ≠ 0)
    (fits : Evaluator.inputs rows modified = .ok inputs)
    (check : (checkDiffusion (FormulationClass.ofScheme scheme) plan.convectionFactor e
      rows).result = .ok ()) :
    ev.Completes (FormulationClass.ofScheme scheme) plan rows modified e inputs := by
  refine ⟨planned, fits, check, Ensemble.sweep_eq_ok_iff.mpr fun input hmem => ?_⟩
  have row_mem := row_mem_of_mem_inputs fits input hmem
  have hi : (e.sides input.row).i.Material := materials _
  have hj : (e.sides input.row).j.Material := materials _
  exact contributions_eq_ok check row_mem (apart _ row_mem)
    (fun _ => scheme.admits_of_material hi hj) ev.fusedRule

/-! ## A pair that is evaluated -/

/-- A viscous particle of unit mass and density, under unit pressure. -/
noncomputable def loadedParticle (x : ℝ) : Particle ℝ :=
  { (Particle.fresh : Particle ℝ) with
    position := ⟨x, 0, 0⟩, pressure := 1, viscosity := 1, backgroundPressure := 1 }

noncomputable def loadedPair : Ensemble 2 ℝ :=
  ⟨Vector.ofFn fun k : Fin 2 => loadedParticle k.val⟩

noncomputable def loadedRow : PairRow 2 ℝ := Neighbours.rowOf ⟨0, 1, ⟨1, 0, 0⟩, 1⟩ (-1 / 2)

/-- All terms of the momentum equation, by the fused loop. -/
noncomputable def wholePlan : Plan ℝ := ⟨.generalized, true, .fused, 5⟩

noncomputable def wholeEvaluator : Evaluator ℝ := ⟨.null, some wholePlan, .strict⟩

theorem loadedPair_particle (k : Fin 2) : loadedPair.particles[k] = loadedParticle k.val :=
  Vector.getElem_ofFn _

theorem loadedParticle_material (x : ℝ) : (loadedParticle x).Material := by
  have one : (0 : ℝ) < 1.0 := by norm_num
  exact ⟨one, one⟩

theorem loadedPair_material (k : Fin 2) : loadedPair.particles[k].Material := by
  rw [loadedPair_particle]
  exact loadedParticle_material _

theorem loadedRow_apart : ∀ row ∈ [loadedRow], row.distance ≠ 0 := by
  intro row hmem
  rw [List.mem_singleton.mp hmem]
  exact one_ne_zero

theorem loadedPair_owned (k : Fin 2) : loadedPair.particles[k].owned = true := by
  rw [loadedPair_particle]
  rfl

theorem loadedPair_completes :
    (wholeEvaluator.evaluate (FormulationClass.ofScheme .adami) [loadedRow] ⟨none, none⟩
      loadedPair).1.result = .ok () := by
  have h : wholeEvaluator.Completes (FormulationClass.ofScheme .adami) wholePlan [loadedRow]
      ⟨none, none⟩ loadedPair [⟨loadedRow, loadedRow.slope⟩] :=
    completes_of_material rfl loadedPair_material loadedRow_apart rfl checkDiffusion_adami
  exact h.result

end Evaluator

end ParticleMomentum
