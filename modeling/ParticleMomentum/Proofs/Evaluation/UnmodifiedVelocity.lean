import ParticleMomentum.Proofs.Evaluation.AdmissibleStates
import ParticleMomentum.Proofs.Evaluation.Separation
import ParticleMomentum.Proofs.Evaluation.ZeroDivisors
import ParticleMomentum.Proofs.Pair.Increments
import ParticleMomentum.Proofs.Settings.Agreement

/-!
# Velocities that are not modified

A modified velocity that is the velocity itself has no part in the transport correction. A call treats it
as one that is not given; in an evaluation all that the correction adds are zeros, and none of its
divisions fails that the pair has come to. So it makes no difference whether transport velocities are
corrected for, neither to an evaluation of particles whose velocities are not modified nor to a scenario,
which starts from such particles.
-/

namespace ParticleMomentum

open Arithmetic

variable {n : Nat}

/-! ## Calls -/

theorem transportTerm_unmodified (weight : ℝ) (velocity direction : Vector3 ℝ) :
    transportTerm weight velocity velocity direction = 0 := by
  simp [transportTerm, zero_literal]

namespace Scheme

variable {scheme : Scheme} {rule : DivisionRule}

theorem exists_transportWeight {density : ℝ} (nonzero : density ≠ 0) :
    ∃ weight, scheme.transportWeight rule density = .ok weight := by
  cases scheme with
  | monaghan => exact rule.exists_quotient nonzero
  | adami => exact ⟨_, rfl⟩

/-- A side whose velocity is not modified adds nothing to the transport correction. -/
theorem addTransport_unmodified {density : ℝ}
    (weighted : ∃ weight, scheme.transportWeight rule density = .ok weight)
    (velocity direction sum : Vector3 ℝ) :
    scheme.addTransport rule density velocity (some velocity) direction sum = .ok sum := by
  obtain ⟨weight, found⟩ := weighted
  simp only [addTransport, found, transportTerm_unmodified, add_zero]
  rfl

variable (scheme rule) in
/-- A modified velocity that is the velocity counts as one that is not given. -/
theorem transportCorrection_unmodified {density : Sides ℝ} (nonzero : density.i ≠ 0 ∧ density.j ≠ 0)
    (velocity : Sides (Vector3 ℝ)) (other : Option (Vector3 ℝ)) (coefficient : Sides ℝ)
    (direction : Vector3 ℝ) (wanted : Sides Bool) :
    let correction modified :=
      scheme.transportCorrection rule density velocity modified coefficient direction wanted
    correction ⟨none, other⟩ = correction ⟨some velocity.i, other⟩ ∧
      correction ⟨other, none⟩ = correction ⟨other, some velocity.j⟩ := by
  have nothing {x : ℝ} (h : x ≠ 0) (v sum : Vector3 ℝ) :
      scheme.addTransport rule x v (some v) direction sum =
        scheme.addTransport rule x v none direction sum :=
    addTransport_unmodified (exists_transportWeight h) v direction sum
  dsimp only [transportCorrection]
  constructor
  · rw [nothing nonzero.1]
  · simp only [nothing nonzero.2]

end Scheme

/-! ## Pairs -/

namespace Trail

variable {ω ε β γ M : Type} [AddCommMonoid M] {value : ω → M}

/-- Both trails end alike, and their items amount to the same. -/
def AmountAlike (value : ω → M) (t u : Trail ω ε β) : Prop :=
  t.result = u.result ∧ (t.items.map value).sum = (u.items.map value).sum

namespace AmountAlike

theorem refl (t : Trail ω ε β) : AmountAlike value t t := ⟨rfl, rfl⟩

/-- Trails with the same first part amount to the same if they do from there on. -/
theorem bind {t : Trail ω ε β} {f g : β → Trail ω ε γ}
    (rest : ∀ b, t.result = .ok b → AmountAlike value (f b) (g b)) :
    AmountAlike value (t >>= f) (t >>= g) := by
  obtain ⟨l, e | b⟩ := t
  · exact refl _
  · obtain ⟨result, amount⟩ := rest b rfl
    rw [ok_bind, ok_bind]
    refine ⟨result, ?_⟩
    rw [List.map_append, List.map_append, List.sum_append, List.sum_append, amount]

theorem guarded {t u : Trail ω ε Unit} (c : Bool) (h : AmountAlike value t u) :
    AmountAlike value (Trail.guarded c t) (Trail.guarded c u) := by
  cases c
  · exact refl _
  · exact h

/-- What amounts to nothing may be left out. -/
theorem guarded_of_nothing {t : Trail ω ε Unit} (h : AmountAlike value t (pure ())) (c c' : Bool) :
    AmountAlike value (Trail.guarded c t) (Trail.guarded c' t) := by
  cases c <;> cases c'
  · exact refl _
  · exact ⟨h.1.symm, h.2.symm⟩
  · exact h
  · exact refl _

end AmountAlike

end Trail

open Trail (AmountAlike)

/-- Zeros on both sides amount to nothing. -/
theorem Fused.addBoth_zero (target : Target) (owned : Sides Bool) :
    AmountAlike Contribution.value (addBoth target owned (0 : Vector3 ℝ) 0) (pure ()) := by
  have zero (side : Side) : (⟨target, side, 0⟩ : Contribution ℝ).value = 0 := by
    rw [Contribution.value, Pi.single_zero, Pi.single_zero]
  obtain ⟨_ | _, _ | _⟩ := owned <;> simp [addBoth, AmountAlike, zero]

variable {scheme : Scheme} {p : Sides (Particle ℝ)}

def Sides.Unmodified (p : Sides (Particle ℝ)) : Prop :=
  ∀ side, (p.get side).modifiedVelocity = (p.get side).velocity

section

variable (unmodified : Sides.Unmodified p)
include unmodified

/-- The transport correction of the fused loop consists of zeros. -/
theorem Fused.transport_unmodified
    (densities : scheme = .monaghan → p.i.density ≠ 0 ∧ p.j.density ≠ 0) (rule : DivisionRule)
    (coefficient : Sides ℝ) (direction : Vector3 ℝ) :
    transport (branch scheme) rule p coefficient direction =
      addBoth .acceleration (p.map (·.owned)) 0 0 := by
  have onI : p.i.modifiedVelocity = p.i.velocity := unmodified .i
  have onJ : p.j.modifiedVelocity = p.j.velocity := unmodified .j
  obtain ⟨weights, found⟩ : ∃ weights, transport.weights (branch scheme) rule p = .ok weights := by
    cases scheme with
    | monaghan =>
        obtain ⟨weightI, ofI⟩ := rule.exists_quotient (x := 1.0) (densities rfl).1
        obtain ⟨weightJ, ofJ⟩ := rule.exists_quotient (x := 1.0) (densities rfl).2
        simp only [transport.weights, branch_monaghan, if_true, ofI, ofJ]
        exact ⟨_, rfl⟩
    | adami => exact ⟨_, rfl⟩
  rw [transport, found, Trail.lift_ok_bind, onI, onJ]
  simp [transportTerm_unmodified]

/-- The transport correction of the stepwise loop consists of zeros. -/
theorem Stepwise.transport_unmodified (coefficient : Sides ℝ) (direction : Vector3 ℝ) :
    transport scheme p coefficient direction =
      Fused.addBoth .acceleration (p.map (·.owned)) 0 0 := by
  have onI : p.i.modifiedVelocity = p.i.velocity := unmodified .i
  have onJ : p.j.modifiedVelocity = p.j.velocity := unmodified .j
  have nothing (q : Particle ℝ) (sum : Vector3 ℝ) :
      scheme.addTransport .extended q.density q.velocity (some q.velocity) direction sum = .ok sum :=
    Scheme.addTransport_unmodified (by cases scheme <;> exact ⟨_, rfl⟩) _ _ _
  simp only [transport, Scheme.transportCorrection, Sides.map, onI, onJ, nothing,
    Trail.lift_ok_bind, Deposits.into_onSides]
  simp

end

/-! ## Evaluations -/

/-- Terms amount to the same with another transport correction if both do that once the pressure gradient
has been computed. -/
theorem PairTerms.contributions_amountAlike {terms : PairTerms ℝ}
    {transport : Sides ℝ → Contributions ℝ Unit}
    (alike : ∀ c, (terms.pressureGradient c).result = .ok () →
      AmountAlike Contribution.value (terms.transport c) (transport c)) :
    AmountAlike Contribution.value terms.contributions { terms with transport }.contributions :=
  .guarded _ (.bind fun c _ => .bind fun _ gradient => .bind fun _ _ => .bind fun _ _ =>
    alike c gradient)

namespace Ensemble

variable {contributions contributions' : PairInput n ℝ → Contributions ℝ Unit}

/-- A sweep depends only on how its pairs end and on what they amount to. -/
theorem sweep_eq_of_amountAlike {inputs : List (PairInput n ℝ)} {e : Ensemble n ℝ}
    (pairs : ∀ input ∈ inputs,
      AmountAlike Contribution.value (contributions input) (contributions' input)) :
    e.sweep contributions inputs = e.sweep contributions' inputs := by
  induction inputs generalizing e with
  | nil => rfl
  | cons input rest ih =>
      obtain ⟨⟨result, amount⟩, others⟩ := List.forall_mem_cons.mp pairs
      have first : (contributions input).items.foldl (contribute input.row) e =
          (contributions' input).items.foldl (contribute input.row) e := by
        refine ext_particles fun k => ?_
        rw [particle_foldl_contribute, particle_foldl_contribute, amount]
      rw [sweep_cons, sweep_cons, first, result]
      rcases (contributions' input).result with f | ⟨⟩
      · rfl
      · exact ih others

end Ensemble

namespace Evaluator

variable {plan : Plan ℝ} {e : Ensemble n ℝ} {input : PairInput n ℝ}

/-- In either loop a pair of unmodified velocities amounts to the same with the transport correction as
without it. -/
theorem contributions_unmodified (unmodified : (e.sides input.row).Unmodified) (rule : DivisionRule)
    (b b' : Bool) :
    AmountAlike Contribution.value
      (contributions (FormulationClass.ofScheme scheme) { plan with transport := b } rule e input)
      (contributions (FormulationClass.ofScheme scheme) { plan with transport := b' } rule e input) := by
  have nothing := Fused.addBoth_zero .acceleration ((e.sides input.row).map (·.owned))
  rw [contributions_eq_terms, contributions_eq_terms, terms, terms]
  cases plan.backend with
  | fused =>
      refine PairTerms.contributions_amountAlike fun c gradient => .guarded_of_nothing ?_ b b'
      rw [Fused.transport_unmodified unmodified ?_ rule]
      · exact nothing
      · -- the pressure gradient has divided by both squared densities
        rintro rfl
        have square {q : Particle ℝ} (h : ¬ q.SquareVanishes) : q.density ≠ 0 := fun zero =>
          h (isZero_real_iff.mpr (by rw [zero, zero_mul]))
        exact (Fused.squares_of_pressureGradient gradient).imp square square
  | stepwise =>
      refine PairTerms.contributions_amountAlike fun c _ => .guarded_of_nothing ?_ b b'
      rw [Stepwise.transport_unmodified unmodified]
      exact nothing

/-- An evaluator that corrects for transport velocities, or does not. -/
def withTransport {α : Type} (ev : Evaluator α) (transport : Bool) : Evaluator α :=
  { ev with plan := ev.plan.map fun plan => { plan with transport } }

theorem plan_withTransport {α : Type} {ev : Evaluator α} {plan : Plan α} (planned : ev.plan = some plan)
    (transport : Bool) : (ev.withTransport transport).plan = some { plan with transport } := by
  rw [withTransport, planned]
  rfl

/-- An evaluation depends only on the inputs, on the check and on its sweep. -/
theorem evaluate_congr {ev ev' : Evaluator ℝ} {plan plan' : Plan ℝ} {kind : FormulationClass}
    {rows : List (PairRow n ℝ)} {modified : Sides (Option (List ℝ))}
    (planned : ev.plan = some plan) (planned' : ev'.plan = some plan')
    (convection : plan'.convectionFactor = plan.convectionFactor)
    (sweeps : ∀ inputs, e.sweep (contributions kind plan' ev'.fusedRule e) inputs =
      e.sweep (contributions kind plan ev.fusedRule e) inputs) :
    ev'.evaluate kind rows modified e = ev.evaluate kind rows modified e := by
  rcases fits : Evaluator.inputs rows modified with fault | inputs
  · rw [evaluate_of_unfit planned fits, evaluate_of_unfit planned' fits]
  rcases check : checkDiffusion kind plan.convectionFactor e rows with ⟨l, f | ⟨⟩⟩
  · have check' : checkDiffusion kind plan'.convectionFactor e rows = ⟨l, .error f⟩ := convection ▸ check
    rw [evaluate_eq_of_refused planned fits check, evaluate_eq_of_refused planned' fits check']
  · have passes : (checkDiffusion kind plan.convectionFactor e rows).result = .ok () :=
      congrArg Trail.result check
    rw [evaluate_of_checked planned fits passes,
      evaluate_of_checked planned' fits (convection ▸ passes), sweeps]

/-- Where no velocity is modified an evaluation is the same with the transport correction as without it. -/
theorem evaluate_unmodified (ev : Evaluator ℝ) (rows : List (PairRow n ℝ))
    (modified : Sides (Option (List ℝ)))
    (unmodified : ∀ k : Fin n, e.particles[k].modifiedVelocity = e.particles[k].velocity)
    (b b' : Bool) :
    (ev.withTransport b).evaluate (FormulationClass.ofScheme scheme) rows modified e =
      (ev.withTransport b').evaluate (FormulationClass.ofScheme scheme) rows modified e := by
  rcases planned : ev.plan with _ | plan
  · simp only [evaluate, withTransport, planned, Option.map_none]
  · refine evaluate_congr (plan_withTransport planned b') (plan_withTransport planned b) rfl
      fun inputs => ?_
    exact Ensemble.sweep_eq_of_amountAlike fun input _ =>
      contributions_unmodified (fun side => by cases side <;> exact unmodified _) _ b b'

end Evaluator

/-! ## Scenarios -/

namespace Scenario

variable {settings settings' : Settings ℝ}

/-- A scenario starts from velocities that are not modified. -/
theorem cleared_unmodified (l : CubicLattice ℝ) (draw : Draws ℝ) (k : Fin l.size) :
    (l.cleared draw).particles[k].modifiedVelocity = (l.cleared draw).particles[k].velocity := by
  rw [l.cleared_particle]
  rfl

/-- What settings that differ in the transport velocity make evaluates a lattice alike. -/
theorem evaluate_configured {made : Equipment ℝ} (equipment : settings.equipment = .ok made)
    (id : Option (Setting ℝ)) (l : CubicLattice ℝ) (draw : Draws ℝ) :
    let made' := made.configured settings'
    evaluate ⟨.record settings', some made'.plan, .strict⟩ made'.formulation.kind made'.kernel id l draw =
      evaluate ⟨.record settings, some made.plan, .strict⟩ made.formulation.kind made.kernel id l
        draw := by
  intro made'
  obtain ⟨⟨scheme, kind⟩, -⟩ := Settings.sound_of_equipment equipment
  have kind' : made'.formulation.kind = FormulationClass.ofScheme scheme := kind
  have found : Neighbours.find made'.kernel (l.ensemble draw).positions =
      Neighbours.find made.kernel (l.ensemble draw).positions := rfl
  have evaluated (rows : List (PairRow l.size ℝ)) :
      Evaluator.evaluate ⟨.record settings', some made'.plan, .strict⟩
          (FormulationClass.ofScheme scheme) rows (Sides.both none) (l.cleared draw) =
        Evaluator.evaluate ⟨.record settings, some made.plan, .strict⟩
          (FormulationClass.ofScheme scheme) rows (Sides.both none) (l.cleared draw) :=
    Evaluator.evaluate_unmodified ⟨.record settings, some made.plan, .strict⟩ rows (Sides.both none)
      (cleared_unmodified l draw) made'.plan.transport made.plan.transport
  rw [evaluate, evaluate, found, kind, kind']
  simp only [CubicLattice.cleared] at evaluated
  simp only [evaluated]

/-- A scenario does not depend on the setting of the transport velocity. -/
theorem run_eq_of_agree (agree : settings.AgreeButTransport settings') (draw : Draws ℝ) :
    (run settings' draw).result = (run settings draw).result := by
  have id : settings'.formulationId = settings.formulationId := agree.findD_eq (by decide) _
  rw [result_run, result_run, agree.validate_eq, agree.equipment_eq, agree.lattice_eq, id]
  refine bind_congr_of_ok fun _ _ => ?_
  refine (bind_map_left _ _ _).trans (bind_congr_of_ok fun made equipment => ?_)
  exact bind_congr_of_ok fun l _ => congrArg Trail.result (evaluate_configured equipment _ l draw)

end Scenario

/-! ## The difference that the transport correction makes -/

/-- A velocity that is not modified contributes nothing. In a call, on particles whose densities are not
zero, a modified velocity that is the velocity of its side adds the same to all accumulators as none, and
the call ends alike, under either rule of division. In an evaluation of particles whose velocities are not
modified, whatever the pairs, the ownership and the plan, the transport correction changes neither how it
ends nor any accumulator. So the summary of a scenario does not depend on the setting of the transport
velocity. -/
theorem unmodifiedVelocity_contributes_nothing :
    (∀ (scheme : Scheme) (rule : DivisionRule) (density : Sides ℝ) (velocity : Sides (Vector3 ℝ))
      (other : Option (Vector3 ℝ)) (coefficient : Sides ℝ) (direction : Vector3 ℝ)
      (targets : Sides (Option String)) (accumulators : Accumulators ℝ),
      density.i ≠ 0 ∧ density.j ≠ 0 →
      let call modified := (Term.transportCorrection density velocity modified).addBy scheme rule
        coefficient direction targets accumulators
      call ⟨none, other⟩ = call ⟨some velocity.i, other⟩ ∧
        call ⟨other, none⟩ = call ⟨other, some velocity.j⟩) ∧
    (∀ (n : Nat) (ev : Evaluator ℝ) (scheme : Scheme) (rows : List (PairRow n ℝ))
      (modified : Sides (Option (List ℝ))) (e : Ensemble n ℝ),
      (∀ k : Fin n, e.particles[k].modifiedVelocity = e.particles[k].velocity) →
      (ev.withTransport true).evaluate (FormulationClass.ofScheme scheme) rows modified e =
        (ev.withTransport false).evaluate (FormulationClass.ofScheme scheme) rows modified e) ∧
    ∀ (settings settings' : Settings ℝ) (draw : Draws ℝ), settings.AgreeButTransport settings' →
      (Scenario.run settings' draw).result = (Scenario.run settings draw).result := by
  refine ⟨?_, ?_, ?_⟩
  · intro scheme rule density velocity other coefficient direction targets accumulators nonzero call
    obtain ⟨onI, onJ⟩ := Scheme.transportCorrection_unmodified scheme rule nonzero velocity other
      coefficient direction (targets.map Option.isSome)
    let received (t : Deposits ℝ Unit) :=
      (t.items.foldl (Accumulators.receive targets) accumulators, t.result)
    exact ⟨congrArg received onI, congrArg received onJ⟩
  · intro n ev scheme rows modified e unmodified
    exact Evaluator.evaluate_unmodified ev rows modified unmodified true false
  · intro settings settings' draw agree
    exact Scenario.run_eq_of_agree agree draw

namespace Evaluator

/-- A loaded particle that moves across the pair, without a modification of its velocity. -/
noncomputable def steadyParticle (x : ℝ) : Particle ℝ :=
  { loadedParticle x with velocity := ⟨0, x, 0⟩, modifiedVelocity := ⟨0, x, 0⟩ }

noncomputable def steadyPair : Ensemble 2 ℝ :=
  ⟨Vector.ofFn fun k : Fin 2 => steadyParticle k.val⟩

end Evaluator

/-- A call of the transport correction for two particles whose velocities are at right angles. -/
noncomputable def crossingCall (modified : Sides (Option (Vector3 ℝ))) :
    Accumulators ℝ × Except (Fault ℝ) Unit :=
  (Term.transportCorrection ⟨2, 3⟩ ⟨⟨1, 0, 0⟩, ⟨0, 1, 0⟩⟩ modified).addBy .monaghan .strict ⟨1, 1⟩
    ⟨1, 0, 0⟩ ⟨some "i", some "j"⟩ [("i", 0), ("j", 0)]

open Evaluator in
theorem unmodifiedVelocity_contributes_nothing_steadyPair :
    (crossingCall ⟨none, some 0⟩ = crossingCall ⟨some ⟨1, 0, 0⟩, some 0⟩ ∧
      crossingCall ⟨some 0, none⟩ = crossingCall ⟨some 0, some ⟨0, 1, 0⟩⟩) ∧
    (wholeEvaluator.withTransport true).evaluate (FormulationClass.ofScheme .monaghan) [loadedRow]
        ⟨none, none⟩ steadyPair =
      (wholeEvaluator.withTransport false).evaluate (FormulationClass.ofScheme .monaghan) [loadedRow]
        ⟨none, none⟩ steadyPair ∧
    (Scenario.run ((Settings.defaults : Settings ℝ).put "transport_velocity" (.flag true))
        fun _ => (0 : ℝ)).result =
      (Scenario.run Settings.defaults fun _ => (0 : ℝ)).result := by
  have steady (k : Fin 2) :
      steadyPair.particles[k].modifiedVelocity = steadyPair.particles[k].velocity := by
    have laid : steadyPair.particles[k] = steadyParticle k.val := Vector.getElem_ofFn _
    rw [laid]
    rfl
  refine ⟨?_, ?_, ?_⟩
  · exact unmodifiedVelocity_contributes_nothing.1 .monaghan .strict ⟨2, 3⟩ ⟨⟨1, 0, 0⟩, ⟨0, 1, 0⟩⟩ (some 0)
      ⟨1, 1⟩ ⟨1, 0, 0⟩ ⟨some "i", some "j"⟩ [("i", 0), ("j", 0)] ⟨two_ne_zero, three_ne_zero⟩
  · exact unmodifiedVelocity_contributes_nothing.2.1 2 wholeEvaluator .monaghan [loadedRow] ⟨none, none⟩
      steadyPair steady
  · exact unmodifiedVelocity_contributes_nothing.2.2 Settings.defaults _ _
      (Settings.agreeButTransport_put _ _)

end ParticleMomentum
