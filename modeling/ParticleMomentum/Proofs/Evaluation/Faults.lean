import ParticleMomentum.Proofs.Evaluation.Completion

/-!
# Faults of the pair loops

The one fault that a pair can meet in either loop is a division by zero, except that the stepwise loop
also refuses a negative diffusion coefficient. This follows the terms: a lemma for each says that it
fails, if at all, by a zero divisor.
-/

namespace ParticleMomentum

variable {n : Nat} {α : Type} [Arithmetic α]

def Fault.IsZeroDivisor (f : Fault α) : Prop := f = .zeroDivisor

open Fault (IsZeroDivisor)
open Trail (faultsIn_bind faultsIn_guarded)

omit [Arithmetic α] in
theorem FaultsIn.eq_zeroDivisor {r : Except (Fault α) Unit} (h : FaultsIn IsZeroDivisor r)
    (fails : r ≠ .ok ()) : r = .error .zeroDivisor := by
  rcases r with f | ⟨⟩
  · exact congrArg Except.error (h f rfl)
  · exact absurd rfl fails

theorem Arithmetic.quotient_faults (x y : α) : FaultsIn IsZeroDivisor (quotient x y) := by
  intro f hf
  rw [quotient] at hf
  split at hf
  · cases hf
    exact rfl
  · cases hf

theorem DivisionRule.quotient_faults (rule : DivisionRule) (x y : α) :
    FaultsIn IsZeroDivisor (rule.quotient x y : Except (Fault α) α) := by
  cases rule with
  | strict => exact Arithmetic.quotient_faults x y
  | extended => exact FaultsIn.ok _

namespace Monaghan

theorem pressureFactor_faults (density pressure : Sides α) :
    FaultsIn IsZeroDivisor (pressureFactor density pressure) :=
  (Arithmetic.quotient_faults _ _).bind fun _ => (Arithmetic.quotient_faults _ _).bind fun _ =>
    FaultsIn.ok _

theorem backgroundFactor_faults (density : Sides α) :
    FaultsIn IsZeroDivisor (backgroundFactor density) :=
  (Arithmetic.quotient_faults _ _).bind fun _ => (Arithmetic.quotient_faults _ _).bind fun _ =>
    FaultsIn.ok _

theorem generalizedBackground_faults (pressure massOther density slope : α) :
    FaultsIn IsZeroDivisor (generalizedBackground pressure massOther density slope) :=
  (Arithmetic.quotient_faults _ _).bind fun _ => FaultsIn.ok _

theorem combined_faults (scale : α) (viscosity : Sides α) :
    FaultsIn IsZeroDivisor (combined scale viscosity) := by
  rw [combined]
  split
  · exact Arithmetic.quotient_faults _ _
  · exact FaultsIn.ok _

theorem combinedBulk_faults (viscosity : Sides α) :
    FaultsIn IsZeroDivisor (combinedBulk viscosity) := by
  rw [combinedBulk]
  split
  · exact Arithmetic.quotient_faults _ _
  · exact FaultsIn.ok _

theorem shearCoefficients_faults (k : α) (viscosity bulkViscosity : Sides α) :
    FaultsIn IsZeroDivisor (shearCoefficients k viscosity bulkViscosity) :=
  (combined_faults _ _).bind fun _ => (combinedBulk_faults _).bind fun _ => FaultsIn.ok _

theorem shearOn_faults (side : Side) (c : α) (shear : ShearCoefficients α) (density : Sides α)
    (distance : α) (relativeVelocity direction : Vector3 α) :
    FaultsIn IsZeroDivisor
      (shearOn side c shear density distance relativeVelocity direction).result := by
  refine faultsIn_bind ((Arithmetic.quotient_faults _ _).bind fun _ => FaultsIn.ok _) fun _ _ => ?_
  exact FaultsIn.ok ()

end Monaghan

namespace Adami

theorem coefficients_faults (density mass slope : Sides α) :
    FaultsIn IsZeroDivisor (coefficients density mass slope) :=
  (Arithmetic.quotient_faults _ _).bind fun _ => (Arithmetic.quotient_faults _ _).bind fun _ =>
    (Arithmetic.quotient_faults _ _).bind fun _ => (Arithmetic.quotient_faults _ _).bind fun _ =>
      FaultsIn.ok _

theorem meanViscosity_faults (viscosity : Sides α) :
    FaultsIn IsZeroDivisor (meanViscosity viscosity) := by
  rw [meanViscosity]
  split
  · exact Arithmetic.quotient_faults _ _
  · exact FaultsIn.ok _

end Adami

omit [Arithmetic α] in
theorem Deposits.onSides_faults (wanted : Sides Bool) (onI onJ : Vector3 α) :
    FaultsIn IsZeroDivisor (onSides wanted onI onJ).result :=
  faultsIn_bind (faultsIn_guarded _ (FaultsIn.ok _)) fun _ _ => faultsIn_guarded _ (FaultsIn.ok _)

namespace Scheme

variable (scheme : Scheme)

theorem coefficients_faults (density mass slope : Sides α) :
    FaultsIn IsZeroDivisor (scheme.coefficients density mass slope) := by
  cases scheme with
  | monaghan => exact FaultsIn.ok _
  | adami => exact Adami.coefficients_faults density mass slope

theorem pressureGradient_faults (density pressure coefficient : Sides α) (direction : Vector3 α)
    (wanted : Sides Bool) :
    FaultsIn IsZeroDivisor
      (scheme.pressureGradient density pressure coefficient direction wanted).result := by
  cases scheme with
  | monaghan =>
      exact faultsIn_bind (Monaghan.pressureFactor_faults _ _) fun _ _ => Deposits.onSides_faults _ _ _
  | adami =>
      exact faultsIn_bind (Arithmetic.quotient_faults _ _) fun _ _ => Deposits.onSides_faults _ _ _

/-- The shear forces of a pair whose diffusion coefficient has been checked. -/
theorem shearForces_faults {density : Sides α} {velocity : Sides (Vector3 α)} {k : α}
    {viscosity bulkViscosity : Sides α}
    (nonneg : scheme = .monaghan → ∀ shear,
      Monaghan.shearCoefficients k viscosity bulkViscosity = .ok shear → ¬ shear.diffusion < 0.0)
    (rule : DivisionRule) (distance : α) (coefficient : Sides α) (direction : Vector3 α)
    (wanted : Sides Bool) :
    FaultsIn IsZeroDivisor (scheme.shearForces rule density velocity k viscosity bulkViscosity
      distance coefficient direction wanted).result := by
  cases scheme with
  | monaghan =>
      refine faultsIn_bind (Monaghan.shearCoefficients_faults _ _ _) fun shear hs => ?_
      rw [if_neg (nonneg rfl shear hs)]
      refine faultsIn_bind (faultsIn_guarded _ ?_) fun _ _ => faultsIn_guarded _ ?_
      all_goals exact Monaghan.shearOn_faults _ _ _ _ _ _ _
  | adami =>
      rw [shearForces, Adami.shearForces]
      split
      · refine faultsIn_bind (Adami.meanViscosity_faults _) fun _ _ => ?_
        refine faultsIn_bind (DivisionRule.quotient_faults _ _ _) fun _ _ => ?_
        exact Deposits.onSides_faults _ _ _
      · exact FaultsIn.ok _

theorem standardBackground_faults (density background coefficient : Sides α)
    (direction : Vector3 α) (wanted : Sides Bool) :
    FaultsIn IsZeroDivisor
      (scheme.standardBackground density background coefficient direction wanted).result := by
  cases scheme with
  | monaghan =>
      exact faultsIn_bind (Monaghan.backgroundFactor_faults _) fun _ _ =>
        Deposits.onSides_faults _ _ _
  | adami => exact Deposits.onSides_faults _ _ _

theorem generalizedBackground_faults (density mass background slope : Sides α)
    (direction : Vector3 α) (wanted : Sides Bool) :
    FaultsIn IsZeroDivisor
      (scheme.generalizedBackground density mass background slope direction wanted).result := by
  cases scheme with
  | monaghan =>
      refine faultsIn_bind (faultsIn_guarded _ ?_) fun _ _ => faultsIn_guarded _ ?_
      all_goals exact faultsIn_bind (Monaghan.generalizedBackground_faults _ _ _ _) fun _ _ =>
        FaultsIn.ok _
  | adami =>
      refine faultsIn_bind (faultsIn_guarded _ ?_) fun _ _ => faultsIn_guarded _ ?_
      all_goals exact faultsIn_bind (Arithmetic.quotient_faults _ _) fun _ _ => FaultsIn.ok _

theorem addTransport_faults (rule : DivisionRule) (density : α) (velocity : Vector3 α)
    (modified : Option (Vector3 α)) (direction sum : Vector3 α) :
    FaultsIn IsZeroDivisor (scheme.addTransport rule density velocity modified direction sum) := by
  cases modified with
  | none => exact FaultsIn.ok _
  | some m =>
      refine FaultsIn.bind ?_ fun _ => FaultsIn.ok _
      cases scheme with
      | monaghan => exact DivisionRule.quotient_faults _ _ _
      | adami => exact FaultsIn.ok _

theorem transportCorrection_faults (rule : DivisionRule) (density : Sides α)
    (velocity : Sides (Vector3 α)) (modified : Sides (Option (Vector3 α))) (coefficient : Sides α)
    (direction : Vector3 α) (wanted : Sides Bool) :
    FaultsIn IsZeroDivisor (scheme.transportCorrection rule density velocity modified coefficient
      direction wanted).result :=
  faultsIn_bind (addTransport_faults scheme _ _ _ _ _ _) fun _ _ =>
    faultsIn_bind (addTransport_faults scheme _ _ _ _ _ _) fun _ _ => Deposits.onSides_faults _ _ _

end Scheme

/-- A pair of the stepwise loop ends, if not with a value, with a division by zero or as its shear forces
do. -/
theorem Stepwise.pair_faultsIn {P : Fault α → Prop} (zero : P .zeroDivisor) {scheme : Scheme}
    {plan : Plan α} {p : Sides (Particle α)} {input : PairInput n α}
    (shear : ∀ coefficient, FaultsIn P (scheme.shearForces .extended (p.map (·.density))
      (p.map (·.velocity)) plan.convectionFactor (p.map (·.viscosity)) (p.map (·.bulkViscosity))
      input.row.distance coefficient input.row.direction (p.map (·.owned))).result) :
    FaultsIn P (pair scheme plan p input).result := by
  have weaker (f : Fault α) (h : IsZeroDivisor f) : P f := h ▸ zero
  apply faultsIn_guarded
  refine faultsIn_bind ((scheme.coefficients_faults _ _ _).mono weaker) fun _ _ => ?_
  refine faultsIn_bind ((scheme.pressureGradient_faults _ _ _ _ _).mono weaker) fun _ _ => ?_
  refine faultsIn_bind (shear _) fun _ _ => ?_
  refine faultsIn_bind ?_ fun _ _ => faultsIn_guarded _ ?_
  · cases plan.background with
    | off => exact FaultsIn.ok _
    | standard => exact (scheme.standardBackground_faults _ _ _ _ _).mono weaker
    | generalized => exact (scheme.generalizedBackground_faults _ _ _ _ _ _).mono weaker
  · exact (scheme.transportCorrection_faults _ _ _ _ _ _ _).mono weaker

/-- A pair of the stepwise loop ends, if not with a value, with a division by zero, once its diffusion
coefficient has been checked. -/
theorem Stepwise.pair_faults {scheme : Scheme} {plan : Plan α} {p : Sides (Particle α)}
    (check : scheme = .monaghan → Evaluator.negativeDiffusion? plan.convectionFactor p = .ok none)
    (input : PairInput n α) : FaultsIn IsZeroDivisor (pair scheme plan p input).result := by
  apply pair_faultsIn (P := IsZeroDivisor) rfl
  intro coefficient
  refine scheme.shearForces_faults (fun monaghan _ hs => ?_) _ _ _ _ _
  exact Evaluator.not_diffusion_neg (check monaghan) hs

namespace Fused

variable (monaghan : Bool) (p : Sides (Particle α))

omit [Arithmetic α] in
theorem addBoth_faults (target : Target) (owned : Sides Bool) (onI onJ : Vector3 α) :
    FaultsIn IsZeroDivisor (addBoth target owned onI onJ).result :=
  faultsIn_bind (faultsIn_guarded _ (FaultsIn.ok _)) fun _ _ => faultsIn_guarded _ (FaultsIn.ok _)

theorem pressureGradient_faults (coefficient : Sides α) (direction : Vector3 α) :
    FaultsIn IsZeroDivisor (pressureGradient monaghan p coefficient direction).result := by
  refine faultsIn_bind ?_ fun _ _ => addBoth_faults _ _ _ _
  cases monaghan
  · exact Arithmetic.quotient_faults _ _
  · exact Monaghan.pressureFactor_faults _ _

theorem shear_faults (rule : DivisionRule) (k distance : α) (coefficient : Sides α)
    (direction : Vector3 α) :
    FaultsIn IsZeroDivisor (shear monaghan rule k p distance coefficient direction).result := by
  cases monaghan
  · simp only [shear, Bool.false_eq_true, if_false]
    split
    · refine faultsIn_bind (Adami.meanViscosity_faults _) fun _ _ => ?_
      refine faultsIn_bind (DivisionRule.quotient_faults _ _ _) fun _ _ => ?_
      exact addBoth_faults _ _ _ _
    · exact FaultsIn.ok _
  · refine faultsIn_bind (Monaghan.shearCoefficients_faults _ _ _) fun _ _ => ?_
    refine faultsIn_bind (faultsIn_guarded _ ?_) fun _ _ => faultsIn_guarded _ ?_
    all_goals exact Monaghan.shearOn_faults _ _ _ _ _ _ _

theorem background_faults (kind : Background) (coefficient modifiedSlope : Sides α)
    (direction : Vector3 α) :
    FaultsIn IsZeroDivisor
      (background monaghan kind p coefficient modifiedSlope direction).result := by
  cases kind with
  | off => exact FaultsIn.ok _
  | standard =>
      refine faultsIn_bind ?_ fun _ _ => addBoth_faults _ _ _ _
      cases monaghan
      · exact FaultsIn.ok _
      · exact Monaghan.backgroundFactor_faults _
  | generalized =>
      refine faultsIn_bind ?_ fun _ _ => addBoth_faults _ _ _ _
      cases monaghan
      · exact (Arithmetic.quotient_faults _ _).bind fun _ =>
          (Arithmetic.quotient_faults _ _).bind fun _ => FaultsIn.ok _
      · exact (Monaghan.generalizedBackground_faults _ _ _ _).bind fun _ =>
          (Monaghan.generalizedBackground_faults _ _ _ _).bind fun _ => FaultsIn.ok _

theorem transport_faults (rule : DivisionRule) (coefficient : Sides α) (direction : Vector3 α) :
    FaultsIn IsZeroDivisor (transport monaghan rule p coefficient direction).result := by
  refine faultsIn_bind ?_ fun _ _ => addBoth_faults _ _ _ _
  cases monaghan
  · exact FaultsIn.ok _
  · exact (DivisionRule.quotient_faults _ _ _).bind fun _ =>
      (DivisionRule.quotient_faults _ _ _).bind fun _ => FaultsIn.ok _

/-- A pair of the fused loop ends, if not with a value, with a division by zero. -/
theorem pair_faults (number : Int) (rule : DivisionRule) (plan : Plan α) (input : PairInput n α) :
    FaultsIn IsZeroDivisor (pair number rule plan p input).result := by
  apply faultsIn_guarded
  refine faultsIn_bind ?_ fun _ _ => ?_
  · rw [coefficients]
    split
    · exact FaultsIn.ok _
    · exact Adami.coefficients_faults _ _ _
  refine faultsIn_bind (pressureGradient_faults _ _ _ _) fun _ _ => ?_
  refine faultsIn_bind (shear_faults _ _ _ _ _ _ _) fun _ _ => ?_
  refine faultsIn_bind (background_faults _ _ _ _ _ _) fun _ _ => ?_
  exact faultsIn_guarded _ (transport_faults _ _ _ _ _)

end Fused

/-- A sweep ends with a fault of one of its pairs. -/
theorem Ensemble.sweep_faults {P : Fault α → Prop}
    {contributions : PairInput n α → Contributions α Unit} {inputs : List (PairInput n α)}
    {e : Ensemble n α} (pairs : ∀ input ∈ inputs, FaultsIn P (contributions input).result) :
    FaultsIn P (e.sweep contributions inputs).2 := by
  induction inputs generalizing e with
  | nil => exact FaultsIn.ok ()
  | cons input rest ih =>
      obtain ⟨first, others⟩ := List.forall_mem_cons.mp pairs
      rw [sweep_cons]
      rcases hr : (contributions input).result with f | ⟨⟩
      · rw [hr] at first
        exact first
      · exact ih others

/-- Once the diffusion coefficients have been checked, where the formulation calls for it, the sweep of an
evaluation ends, if not with a value, with a division by zero. -/
theorem Evaluator.sweep_faults {kind : FormulationClass} {plan : Plan α} {e : Ensemble n α}
    {rows : List (PairRow n α)} {inputs : List (PairInput n α)}
    (numbered : kind.scheme = .monaghan → kind.checksDiffusion = true)
    (check : (checkDiffusion kind plan.convectionFactor e rows).result = .ok ())
    (rows_mem : ∀ input ∈ inputs, input.row ∈ rows) (rule : DivisionRule) :
    FaultsIn IsZeroDivisor (e.sweep (contributions kind plan rule e) inputs).2 := by
  refine Ensemble.sweep_faults fun input hmem => ?_
  rw [contributions]
  cases plan.backend with
  | fused => exact Fused.pair_faults _ _ _ _ _
  | stepwise =>
      refine Stepwise.pair_faults (fun monaghan => ?_) input
      exact checkDiffusion_result_eq_ok_iff.mp check (numbered monaghan) _ (rows_mem input hmem)

/-! ## Evaluations without a check -/

/-- A division by zero, or a negative diffusion coefficient. -/
def Fault.IsPairFault (f : Fault α) : Prop := f = .zeroDivisor ∨ ∃ report, f = .negativeDiffusion report

open Fault (IsPairFault)

omit [Arithmetic α] in
theorem Fault.IsZeroDivisor.isPairFault {f : Fault α} (h : f.IsZeroDivisor) : f.IsPairFault := .inl h

theorem Scheme.shearForces_pairFaults (scheme : Scheme) (rule : DivisionRule) (density : Sides α)
    (velocity : Sides (Vector3 α)) (k : α) (viscosity bulkViscosity : Sides α) (distance : α)
    (coefficient : Sides α) (direction : Vector3 α) (wanted : Sides Bool) :
    FaultsIn IsPairFault (scheme.shearForces rule density velocity k viscosity bulkViscosity distance
      coefficient direction wanted).result := by
  cases scheme with
  | adami =>
      refine (shearForces_faults .adami nofun rule distance coefficient direction wanted).mono ?_
      exact fun _ => IsZeroDivisor.isPairFault
  | monaghan =>
      refine faultsIn_bind ((Monaghan.shearCoefficients_faults _ _ _).mono fun _ =>
        IsZeroDivisor.isPairFault) fun shear _ => ?_
      split
      · exact FaultsIn.error (.inr ⟨_, rfl⟩)
      · refine faultsIn_bind (faultsIn_guarded _ ?_) fun _ _ => faultsIn_guarded _ ?_
        all_goals exact (Monaghan.shearOn_faults _ _ _ _ _ _ _).mono fun _ => IsZeroDivisor.isPairFault

namespace Evaluator

theorem contributions_faults (kind : FormulationClass) (plan : Plan α) (rule : DivisionRule)
    (e : Ensemble n α) (input : PairInput n α) :
    FaultsIn IsPairFault (contributions kind plan rule e input).result := by
  rw [contributions]
  cases plan.backend with
  | fused => exact (Fused.pair_faults _ _ _ _ _).mono fun _ => IsZeroDivisor.isPairFault
  | stepwise =>
      exact Stepwise.pair_faultsIn (.inl rfl) fun _ => Scheme.shearForces_pairFaults _ _ _ _ _ _ _ _ _ _ _

theorem negativeDiffusion?_faults (k : α) (p : Sides (Particle α)) :
    FaultsIn IsZeroDivisor (negativeDiffusion? k p) :=
  (Monaghan.shearCoefficients_faults _ _ _).bind fun _ => FaultsIn.ok _

theorem firstNegativeDiffusion?_faults (k : α) (e : Ensemble n α) (rows : List (PairRow n α)) :
    FaultsIn IsZeroDivisor (firstNegativeDiffusion? k e rows) := by
  induction rows with
  | nil => exact FaultsIn.ok _
  | cons row rest ih =>
      refine (negativeDiffusion?_faults k _).bind fun found => ?_
      cases found with
      | none => exact ih
      | some report => exact FaultsIn.ok _

theorem checkDiffusion_faults (kind : FormulationClass) (k : α) (e : Ensemble n α)
    (rows : List (PairRow n α)) : FaultsIn IsPairFault (checkDiffusion kind k e rows).result := by
  rw [checkDiffusion]
  split
  · refine faultsIn_bind ((firstNegativeDiffusion?_faults k e rows).mono fun _ =>
      IsZeroDivisor.isPairFault) fun found _ => ?_
    cases found with
    | none => exact FaultsIn.ok _
    | some first => exact FaultsIn.error (.inr ⟨_, rfl⟩)
  · exact FaultsIn.ok _

omit [Arithmetic α] in
theorem inputs_faults (rows : List (PairRow n α)) (modified : Sides (Option (List α))) :
    FaultsIn (· = .derivativesShape rows.length) (Evaluator.inputs rows modified) := by
  rw [Evaluator.inputs]
  split
  · exact FaultsIn.error rfl
  · exact FaultsIn.ok _

end Evaluator

end ParticleMomentum
