import ParticleMomentum.Proofs.Evaluation.Dissipation
import ParticleMomentum.Proofs.Evaluation.Faults

/-!
# How an evaluation ends

In exact arithmetic, on pairs whose particles do not coincide, an evaluation can end in three ways. It is
refused if the formulation is Monaghan's and some pair has a negative diffusion coefficient. Otherwise it
is stopped by a zero divisor if the scheme divides by zero for some pair with an owned particle, and
completes if there is no such pair. Neither condition depends on the order of the pairs, on the loop that
runs or on where the particles are, so two evaluations that share them end alike.
-/

namespace ParticleMomentum

open Arithmetic

variable {n : Nat} {scheme : Scheme} {plan : Plan ℝ}

/-! ## Endings -/

/-- Both results are the same, or both report a negative diffusion coefficient. Which pair is reported
depends on the order of the pairs. -/
def EndAlike {α : Type} (r r' : Except (Fault α) Unit) : Prop :=
  r = r' ∨ ∃ report report', r = .error (.negativeDiffusion report) ∧
    r' = .error (.negativeDiffusion report')

namespace EndAlike

variable {α : Type} {r r' : Except (Fault α) Unit}

theorem refl (r : Except (Fault α) Unit) : EndAlike r r := .inl rfl

theorem ok_iff (h : EndAlike r r') : r = .ok () ↔ r' = .ok () := by
  rcases h with same | ⟨report, report', hr, hr'⟩
  · rw [same]
  · rw [hr, hr']
    constructor <;>
    · intro h
      cases h

end EndAlike

/-! ## Pairs -/

namespace Evaluator

variable {ev : Evaluator ℝ} {e e' : Ensemble n ℝ} {rows rows' : List (PairRow n ℝ)}
variable {modified modified' : Sides (Option (List ℝ))} {inputs inputs' : List (PairInput n ℝ)}
variable {input : PairInput n ℝ}

/-- The scheme divides by no zero for a pair, unless none of its particles is owned. -/
def Divides (scheme : Scheme) (e : Ensemble n ℝ) (input : PairInput n ℝ) : Prop :=
  ((e.sides input.row).i.owned || (e.sides input.row).j.owned) = true →
    scheme.Admits (e.sides input.row)

/-- The diffusion coefficient of a pair is not negative, where the scheme has one. -/
def Diffuses (scheme : Scheme) (e : Ensemble n ℝ) (input : PairInput n ℝ) : Prop :=
  scheme = .monaghan → 0 ≤ Equation.diffusion (e.sides input.row)

/-- Once the diffusion coefficients have been checked, a pair of particles that do not coincide meets no
fault just if no divisor is zero, in either loop. -/
theorem contributions_eq_ok_iff
    (check : (checkDiffusion (FormulationClass.ofScheme scheme) plan.convectionFactor e
      rows).result = .ok ())
    (hmem : input.row ∈ rows) (apart : input.row.distance ≠ 0) (rule : DivisionRule) :
    (contributions (FormulationClass.ofScheme scheme) plan rule e input).result = .ok () ↔
      Divides scheme e input := by
  constructor
  · intro completes touched
    rw [contributions] at completes
    have stepwise : (Stepwise.pair scheme plan (e.sides input.row) input).result = .ok () := by
      cases hb : plan.backend with
      | stepwise =>
          rw [hb] at completes
          cases scheme <;> exact completes
      | fused =>
          rw [hb] at completes
          have same := pair_refinedBy_of_check mul_one_literal check rule input hmem () completes
          exact (congrArg Trail.result same).trans completes
    exact Stepwise.admits_of_pair touched stepwise
  · intro divides
    exact contributions_eq_ok check hmem apart divides rule

/-! ## Evaluations -/

/-- The check passes just if no pair has a negative diffusion coefficient; what it refuses is such a
pair. -/
theorem checkDiffusion_cases (scheme : Scheme) (k : ℝ) (e : Ensemble n ℝ) (rows : List (PairRow n ℝ)) :
    (checkDiffusion (FormulationClass.ofScheme scheme) k e rows).result = .ok () ∨
      ∃ l report, checkDiffusion (FormulationClass.ofScheme scheme) k e rows =
        ⟨l, .error (.negativeDiffusion report)⟩ := by
  have found (rows : List (PairRow n ℝ)) : ∃ first, firstNegativeDiffusion? k e rows = .ok first := by
    induction rows with
    | nil => exact ⟨none, rfl⟩
    | cons row rest ih =>
        rw [firstNegativeDiffusion?, negativeDiffusion?_real]
        by_cases negative : Equation.diffusion (e.sides row) < 0
        · rw [if_pos negative]
          exact ⟨_, rfl⟩
        · rw [if_neg negative]
          exact ih
  obtain ⟨first, hfirst⟩ := found rows
  rw [checkDiffusion, hfirst]
  cases (FormulationClass.ofScheme scheme).checksDiffusion with
  | false => exact .inl rfl
  | true =>
      cases first with
      | none => exact .inl rfl
      | some first => exact .inr ⟨_, _, rfl⟩

theorem check_eq_ok_iff (fits : Evaluator.inputs rows modified = .ok inputs) (k : ℝ) :
    (checkDiffusion (FormulationClass.ofScheme scheme) k e rows).result = .ok () ↔
      ∀ input ∈ inputs, Diffuses scheme e input := by
  rw [checkDiffusion_result_eq_ok_iff, ← map_row_inputs fits, List.forall_mem_map]
  simp only [negativeDiffusion?_eq_none_iff, Diffuses]
  cases scheme with
  | monaghan => exact ⟨fun h input hmem _ => h rfl input hmem, fun h _ input hmem => h input hmem rfl⟩
  | adami => exact ⟨fun _ _ _ => nofun, fun _ => nofun⟩

section

variable (planned : ev.plan = some plan) (fits : Evaluator.inputs rows modified = .ok inputs)
include planned fits

/-- An evaluation is refused if a pair has a negative diffusion coefficient. -/
theorem evaluate_refused (negative : ¬ ∀ input ∈ inputs, Diffuses scheme e input) :
    ∃ report, (ev.evaluate (FormulationClass.ofScheme scheme) rows modified e).1.result =
      .error (.negativeDiffusion report) := by
  rcases checkDiffusion_cases scheme plan.convectionFactor e rows with passes | ⟨l, report, refused⟩
  · exact absurd ((check_eq_ok_iff fits _).mp passes) negative
  · rw [evaluate_eq_of_refused planned fits refused]
    exact ⟨report, rfl⟩

/-- An evaluation completes just if no pair has a negative diffusion coefficient or a divisor that is
zero. -/
theorem evaluate_eq_ok_iff (apart : ∀ row ∈ rows, row.distance ≠ 0)
    (diffuses : ∀ input ∈ inputs, Diffuses scheme e input) :
    (ev.evaluate (FormulationClass.ofScheme scheme) rows modified e).1.result = .ok () ↔
      ∀ input ∈ inputs, Divides scheme e input := by
  have check := (check_eq_ok_iff fits plan.convectionFactor).mpr diffuses
  rw [evaluate_result_of_checked planned fits check, Ensemble.sweep_eq_ok_iff]
  refine forall₂_congr fun input hmem => ?_
  have row_mem := row_mem_of_mem_inputs fits input hmem
  exact contributions_eq_ok_iff check row_mem (apart _ row_mem) ev.fusedRule

/-- An evaluation is stopped by a zero divisor if a pair has one, and no negative diffusion coefficient
has been found before. -/
theorem evaluate_eq_zeroDivisor (apart : ∀ row ∈ rows, row.distance ≠ 0)
    (diffuses : ∀ input ∈ inputs, Diffuses scheme e input)
    (zero : ¬ ∀ input ∈ inputs, Divides scheme e input) :
    (ev.evaluate (FormulationClass.ofScheme scheme) rows modified e).1.result =
      .error .zeroDivisor := by
  have check := (check_eq_ok_iff fits plan.convectionFactor).mpr diffuses
  have fails := mt (evaluate_eq_ok_iff planned fits apart diffuses).mp zero
  rw [evaluate_result_of_checked planned fits check] at fails ⊢
  refine (sweep_faults ?_ check (row_mem_of_mem_inputs fits) ev.fusedRule).eq_zeroDivisor fails
  cases scheme with
  | monaghan => exact fun _ => rfl
  | adami => exact nofun

end

/-- Evaluations end alike if negative diffusion coefficients and zero divisors occur in both or in
neither. -/
theorem evaluate_endAlike (fits : Evaluator.inputs rows modified = .ok inputs)
    (fits' : Evaluator.inputs rows' modified' = .ok inputs')
    (apart : ∀ row ∈ rows, row.distance ≠ 0) (apart' : ∀ row ∈ rows', row.distance ≠ 0)
    (diffuses : (∀ input ∈ inputs', Diffuses scheme e' input) ↔
      ∀ input ∈ inputs, Diffuses scheme e input)
    (divides : (∀ input ∈ inputs', Divides scheme e' input) ↔
      ∀ input ∈ inputs, Divides scheme e input) :
    EndAlike (ev.evaluate (FormulationClass.ofScheme scheme) rows' modified' e').1.result
      (ev.evaluate (FormulationClass.ofScheme scheme) rows modified e).1.result := by
  rcases hp : ev.plan with _ | plan
  · rw [evaluate, evaluate, hp]
    exact .refl _
  by_cases passes : ∀ input ∈ inputs, Diffuses scheme e input
  · by_cases sound : ∀ input ∈ inputs, Divides scheme e input
    · rw [(evaluate_eq_ok_iff hp fits apart passes).mpr sound,
        (evaluate_eq_ok_iff hp fits' apart' (diffuses.mpr passes)).mpr (divides.mpr sound)]
      exact .refl _
    · rw [evaluate_eq_zeroDivisor hp fits apart passes sound,
        evaluate_eq_zeroDivisor hp fits' apart' (diffuses.mpr passes) (mt divides.mp sound)]
      exact .refl _
  · obtain ⟨report, refused⟩ := evaluate_refused hp fits passes
    obtain ⟨report', refused'⟩ := evaluate_refused hp fits' (mt diffuses.mp passes)
    exact .inr ⟨report', report, refused', refused⟩

/-- If one of two evaluations that end alike completes, both do. -/
theorem exists_completes (fits : Evaluator.inputs rows modified = .ok inputs)
    (fits' : Evaluator.inputs rows' modified' = .ok inputs')
    (alike : EndAlike (ev.evaluate (FormulationClass.ofScheme scheme) rows' modified' e').1.result
      (ev.evaluate (FormulationClass.ofScheme scheme) rows modified e).1.result)
    (completes : (ev.evaluate (FormulationClass.ofScheme scheme) rows modified e).1.result = .ok ()) :
    ∃ plan, ev.Completes (FormulationClass.ofScheme scheme) plan rows modified e inputs ∧
      ev.Completes (FormulationClass.ofScheme scheme) plan rows' modified' e' inputs' := by
  obtain ⟨plan, planned⟩ := exists_plan_of_evaluate_eq_ok completes
  obtain ⟨_, h⟩ := completes_of_evaluate_eq_ok planned completes
  obtain ⟨_, h'⟩ := completes_of_evaluate_eq_ok planned (alike.ok_iff.mpr completes)
  cases fits.symm.trans h.inputs_eq
  cases fits'.symm.trans h'.inputs_eq
  exact ⟨plan, h, h'⟩

/-- What a pair adds to the accumulators of a particle: the amounts on its owned sides that the particle
stands on. -/
noncomputable def gain (scheme : Scheme) (plan : Plan ℝ) (e : Ensemble n ℝ) (k : Fin n)
    (input : PairInput n ℝ) : Target → Vector3 ℝ :=
  input.row.reaching k fun target side =>
    if ((e.sides input.row).get side).owned then
      Equation.amount scheme plan (e.sides input.row) input.row input.modifiedSlope target side
    else 0

/-- An evaluation that completes has added to each particle what the pairs have for it. -/
theorem Completes.particle_gain
    (h : ev.Completes (FormulationClass.ofScheme scheme) plan rows modified e inputs) (k : Fin n) :
    (ev.evaluate (FormulationClass.ofScheme scheme) rows modified e).2.particles[k] =
      e.particles[k].receive (inputs.map (gain scheme plan e k)).sum :=
  h.particle k

end Evaluator

end ParticleMomentum
