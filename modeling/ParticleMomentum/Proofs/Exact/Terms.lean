import ParticleMomentum.Proofs.Exact.Amounts
import ParticleMomentum.Proofs.Exact.Equation

/-!
# The terms of a pair in exact arithmetic

Each term of the stepwise loop amounts to the term of the momentum equation of the same name, on the
sides that are owned. Together they make a pair: `Stepwise.addsUpTo_pair`.
-/

namespace ParticleMomentum

open Arithmetic
open Trail (AddsUpTo)

variable {n : Nat} {scheme : Scheme} {p : Sides (Particle ℝ)} {row : PairRow n ℝ} {slope : Sides ℝ}

/-! ## Coefficients and factors -/

theorem Scheme.coefficients_eq_ok {c : Sides ℝ}
    (h : scheme.coefficients (p.map (·.density)) (p.map (·.mass)) row.slope = .ok c) :
    c = Equation.coefficient scheme p row := by
  cases scheme with
  | monaghan =>
      cases h
      rfl
  | adami =>
      simp only [coefficients, Adami.coefficients, bind_eq_ok_iff, quotient_real_eq_ok_iff,
        pure_eq_ok_iff] at h
      obtain ⟨_, ⟨-, rfl⟩, _, ⟨-, rfl⟩, _, ⟨-, rfl⟩, _, ⟨-, rfl⟩, rfl⟩ := h
      simp only [Sides.map, Equation.coefficient, mul_div_assoc, pow_two]

theorem Monaghan.pressureFactor_eq_ok {f : ℝ}
    (h : pressureFactor (p.map (·.density)) (p.map (·.pressure)) = .ok f) :
    f = Equation.pressureFactor .monaghan p := by
  simp only [pressureFactor, bind_eq_ok_iff, quotient_real_eq_ok_iff, pure_eq_ok_iff] at h
  obtain ⟨_, ⟨-, rfl⟩, _, ⟨-, rfl⟩, rfl⟩ := h
  simp only [Sides.map, Equation.pressureFactor, pow_two]

theorem Adami.pressureFactor_eq_ok {f : ℝ}
    (h : pressureFactor (p.map (·.density)) (p.map (·.pressure)) = .ok f) :
    f = Equation.pressureFactor .adami p := by
  rw [pressureFactor, quotient_real_eq_ok_iff] at h
  exact h.2

theorem Monaghan.combined_eq_ok {s x : ℝ} {viscosity : Sides ℝ}
    (h : combined s viscosity = .ok x) : x = Equation.harmonicMean viscosity / s := by
  rw [combined, zero_literal, two_literal] at h
  rw [Equation.harmonicMean]
  split at h
  · next positive =>
    rw [if_pos positive, (quotient_real_eq_ok_iff.mp h).2, div_div, mul_comm s]
  · next positive =>
    cases h
    rw [if_neg positive, zero_div]

theorem Monaghan.combinedBulk_eq_ok {x : ℝ} {viscosity : Sides ℝ}
    (h : combinedBulk viscosity = .ok x) : x = Equation.harmonicMean viscosity := by
  have same : combinedBulk viscosity = combined 1 viscosity := by
    rw [combinedBulk, combined, one_mul]
  exact (combined_eq_ok (same ▸ h)).trans (div_one _)

/-- Both parts of the shear on a side make up a multiple of the shear that the sides share. -/
theorem Monaghan.shearParts_eq_ok {plan : Plan ℝ} {shear : ShearCoefficients ℝ} {c : ℝ}
    {parts : Vector3 ℝ × Vector3 ℝ}
    (hs : shearCoefficients plan.convectionFactor (p.map (·.viscosity)) (p.map (·.bulkViscosity)) =
      .ok shear)
    (h : shearParts c shear (p.map (·.density)) row.distance (p.i.velocity - p.j.velocity)
      row.direction = .ok parts) :
    parts.1 + parts.2 = c • Equation.shearVector .monaghan plan p row := by
  simp only [shearCoefficients, bind_eq_ok_iff, pure_eq_ok_iff] at hs
  obtain ⟨scaled, hscaled, bulk, hbulk, rfl⟩ := hs
  simp only [shearParts, bind_eq_ok_iff, quotient_real_eq_ok_iff, pure_eq_ok_iff] at h
  obtain ⟨_, ⟨-, rfl⟩, rfl⟩ := h
  rw [combined_eq_ok hscaled, combinedBulk_eq_ok hbulk, three_literal, five_literal, one_literal]
  simp only [Vector3.scale_eq, Equation.shearVector, Equation.relativeVelocity, Sides.map, mul_smul,
    smul_add]

theorem Adami.meanViscosity_eq_ok {x : ℝ} {viscosity : Sides ℝ}
    (h : meanViscosity viscosity = .ok x) : x = Equation.harmonicMean viscosity := by
  refine Monaghan.combinedBulk_eq_ok ((if_congr ?_ rfl rfl).trans h)
  rw [isViscous, Bool.and_eq_true, decide_eq_true_iff, decide_eq_true_iff]

theorem Adami.harmonicMean_eq_zero {viscosity : Sides ℝ} (h : isViscous viscosity = false) :
    Equation.harmonicMean viscosity = 0 := by
  rw [Equation.harmonicMean, if_neg]
  rw [isViscous, zero_literal] at h
  simpa using h

theorem Monaghan.backgroundFactor_eq_ok {density : Sides ℝ} {f : ℝ}
    (h : backgroundFactor density = .ok f) : f = 1 / density.i ^ 2 + 1 / density.j ^ 2 := by
  simp only [backgroundFactor, bind_eq_ok_iff, quotient_real_eq_ok_iff, pure_eq_ok_iff,
    one_literal] at h
  obtain ⟨_, ⟨-, rfl⟩, _, ⟨-, rfl⟩, rfl⟩ := h
  rw [pow_two, pow_two]

theorem Monaghan.generalizedBackground_eq_ok {pressure mass density slope f : ℝ}
    (h : generalizedBackground pressure mass density slope = .ok f) :
    f = pressure * (mass / density ^ 2) * slope := by
  simp only [generalizedBackground, bind_eq_ok_iff, quotient_real_eq_ok_iff, pure_eq_ok_iff] at h
  obtain ⟨_, ⟨-, rfl⟩, rfl⟩ := h
  rw [pow_two]

theorem Adami.generalizedBackground_eq_ok {pressure mass density slope f : ℝ}
    (h : generalizedBackground pressure mass density slope = .ok f) :
    f = pressure * mass * slope / density ^ 2 := by
  rw [pow_two]
  exact (quotient_real_eq_ok_iff.mp h).2

/-- What a particle with a modified velocity adds to the transport correction. -/
theorem Scheme.addTransport_eq_ok {q : Particle ℝ} {sum sum' : Vector3 ℝ}
    (h : scheme.addTransport .extended q.density q.velocity (some q.modifiedVelocity) row.direction
      sum = .ok sum') : sum' = sum + Equation.transportPart scheme row q := by
  simp only [addTransport, bind_eq_ok_iff, pure_eq_ok_iff] at h
  obtain ⟨weight, hw, rfl⟩ := h
  have weight_eq : weight = Equation.transportWeight scheme q.density := by
    cases scheme with
    | monaghan =>
        cases hw
        rw [one_literal]
        rfl
    | adami =>
        cases hw
        rw [Adami.transportWeight, half_literal]
        rfl
  rw [weight_eq, transportTerm, Equation.transportPart, Vector3.dot_eq, zero_literal, zero_add]
  rfl

/-! ## Terms -/

/-- Diffusion and convection on one side. -/
theorem Monaghan.addsUpTo_shearOn {plan : Plan ℝ}
    {shear : Monaghan.ShearCoefficients ℝ} (side : Side) (c : ℝ)
    (hs : Monaghan.shearCoefficients plan.convectionFactor (p.map (·.viscosity))
      (p.map (·.bulkViscosity)) = .ok shear) :
    AddsUpTo Deposit.value
      (Monaghan.shearOn side c shear (p.map (·.density)) row.distance
        (p.i.velocity - p.j.velocity) row.direction)
      (Pi.single side (c • Equation.shearVector .monaghan plan p row)) := by
  refine AddsUpTo.lift_bind fun parts h => ?_
  have both := (Deposits.addsUpTo_make side parts.1).bind fun _ _ =>
    Deposits.addsUpTo_make side parts.2
  refine both.congr ?_
  rw [← Pi.single_add, Monaghan.shearParts_eq_ok hs h]

theorem masked_owned (amount : Sides (Vector3 ℝ)) (side : Side) :
    amount.masked (p.map (·.owned)) side = if (p.get side).owned then amount.get side else 0 := by
  cases side <;> rfl

/-- A term adds up to amounts for one accumulator, on the sides that are owned. -/
def TermIs (t : Contributions ℝ Unit) (target : Target) (p : Sides (Particle ℝ))
    (amount : Sides (Vector3 ℝ)) : Prop :=
  t.AddsUpTo Contribution.value (Pi.single target (amount.masked (p.map (·.owned))))

namespace Stepwise

theorem pressureGradient_is :
    TermIs (pressureGradient scheme p (Equation.coefficient scheme p row) row.direction)
      .acceleration p (Equation.pressure scheme p row) := by
  apply Deposits.addsUpTo_into
  cases scheme with
  | monaghan =>
      refine AddsUpTo.lift_bind fun f hf => ?_
      rw [Monaghan.pressureFactor_eq_ok hf]
      exact Deposits.addsUpTo_along _ _ _ (neg_mul _ _)
  | adami =>
      refine AddsUpTo.lift_bind fun f hf => ?_
      rw [Adami.pressureFactor_eq_ok hf]
      exact Deposits.addsUpTo_along _ _ _ (neg_mul _ _)

theorem shear_is {plan : Plan ℝ} :
    TermIs (shear scheme plan.convectionFactor p row.distance (Equation.coefficient scheme p row)
      row.direction) .acceleration p (Equation.shear scheme plan p row) := by
  apply Deposits.addsUpTo_into
  cases scheme with
  | monaghan =>
      refine AddsUpTo.lift_bind fun shear hs => ?_
      split
      · exact AddsUpTo.fail _
      · refine (Deposits.addsUpTo_guardedSides _ (Monaghan.addsUpTo_shearOn .i _ hs)
          (Monaghan.addsUpTo_shearOn .j _ hs)).congr ?_
        simp only [neg_smul]
        rfl
  | adami =>
      cases hv : Adami.isViscous (p.map (·.viscosity))
      · -- without viscosity there is no shear, and the mean viscosity is zero
        have none : Equation.shearVector .adami plan p row = 0 := by
          simp only [Equation.shearVector, Adami.harmonicMean_eq_zero hv, zero_div, zero_smul]
        simp only [Scheme.shearForces, Adami.shearForces, hv]
        refine (AddsUpTo.nothing _).congr ?_
        funext side
        cases side <;> simp [Sides.masked, Sides.get, Equation.shear, none]
      · simp only [Scheme.shearForces, Adami.shearForces, hv, if_true]
        refine AddsUpTo.lift_bind fun mean hm => AddsUpTo.lift_bind fun factor hf => ?_
        cases hf
        rw [Adami.meanViscosity_eq_ok hm]
        refine (Deposits.addsUpTo_onSides _ _ _).congr ?_
        simp only [Vector3.scale_eq, neg_mul, mul_smul, neg_smul]
        rfl

theorem standardBackground_is :
    TermIs (background scheme .standard p (Equation.coefficient scheme p row) slope row.direction)
      .modifiedAcceleration p (Equation.standardBackground scheme p row) := by
  apply Deposits.addsUpTo_into
  cases scheme with
  | monaghan =>
      refine AddsUpTo.lift_bind fun factor hf => ?_
      rw [Monaghan.backgroundFactor_eq_ok hf]
      refine Deposits.addsUpTo_along _ _ _ ?_
      rw [neg_mul, neg_mul]
      rfl
  | adami =>
      exact Deposits.addsUpTo_along _ _ _ (neg_mul _ _)

theorem generalizedBackground_is (c : Sides ℝ) :
    TermIs (background scheme .generalized p c slope row.direction)
      .modifiedAcceleration p (Equation.generalizedBackground scheme p row slope) := by
  apply Deposits.addsUpTo_into
  cases scheme with
  | monaghan =>
      refine Deposits.addsUpTo_guardedSides _ (AddsUpTo.lift_bind fun factor hf => ?_)
        (AddsUpTo.lift_bind fun factor hf => ?_)
      all_goals
        rw [Monaghan.generalizedBackground_eq_ok hf]
        exact Deposits.addsUpTo_make _ _
  | adami =>
      refine Deposits.addsUpTo_guardedSides _ (AddsUpTo.lift_bind fun factor hf => ?_)
        (AddsUpTo.lift_bind fun factor hf => ?_)
      all_goals
        rw [Adami.generalizedBackground_eq_ok hf]
        exact Deposits.addsUpTo_make _ _

theorem transport_is :
    TermIs (transport scheme p (Equation.coefficient scheme p row) row.direction)
      .acceleration p (Equation.transport scheme p row) := by
  apply Deposits.addsUpTo_into
  refine AddsUpTo.lift_bind fun fromI hi => AddsUpTo.lift_bind fun sum hs => ?_
  rw [Scheme.addTransport_eq_ok hs, Scheme.addTransport_eq_ok hi]
  refine (Deposits.addsUpTo_onSides _ _ _).congr ?_
  simp only [Vector3.scale_eq, Vector3.zero_eq, zero_add, neg_smul]
  rfl

/-! ## Pairs -/

variable {plan : Plan ℝ} {input : PairInput n ℝ}

/-- The background pressure that a plan asks for, if any. -/
theorem addsUpTo_background :
    (background scheme plan.background p (Equation.coefficient scheme p row) slope
      row.direction).AddsUpTo Contribution.value (Pi.single .modifiedAcceleration fun side =>
        if (p.get side).owned then Equation.modifiedAcceleration scheme plan p row slope side
        else 0) := by
  unfold Equation.modifiedAcceleration
  cases plan.background with
  | off =>
      refine (AddsUpTo.nothing _).congr ?_
      simp only [ite_self]
      exact (Pi.single_zero _).symm
  | standard =>
      refine standardBackground_is.congr (congrArg _ (funext fun side => ?_))
      cases side <;> rfl
  | generalized =>
      refine (generalizedBackground_is _).congr (congrArg _ (funext fun side => ?_))
      cases side <;> rfl

/-- A pair amounts to what the momentum equation has for it, on the sides that are owned. -/
theorem addsUpTo_pair :
    (pair scheme plan p input).AddsUpTo Contribution.value fun target side =>
      if (p.get side).owned then
        Equation.amount scheme plan p input.row input.modifiedSlope target side
      else 0 := by
  have owned : AddsUpTo Contribution.value (ownedPair scheme plan p input) fun target side =>
      if (p.get side).owned then
        Equation.amount scheme plan p input.row input.modifiedSlope target side
      else 0 := by
    refine AddsUpTo.lift_bind fun c hc => ?_
    rw [Scheme.coefficients_eq_ok hc]
    refine (pressureGradient_is.bind fun _ _ => shear_is.bind fun _ _ =>
      addsUpTo_background.bind fun _ _ => transport_is.guarded plan.transport).congr ?_
    funext target side
    by_cases hs : (p.get side).owned = true <;> cases target <;> cases ht : plan.transport <;>
      simp [Equation.amount, Equation.acceleration, masked_owned, hs, ht, add_assoc]
  refine (owned.guarded _).congr ?_
  by_cases h : (p.i.owned || p.j.owned) = true
  · rw [if_pos h]
  · rw [if_neg h]
    simp only [Bool.or_eq_true, not_or] at h
    funext target side
    cases side
    · exact (if_neg h.1).symm
    · exact (if_neg h.2).symm

end Stepwise

end ParticleMomentum
