import ParticleMomentum.Proofs.Arithmetic.Double
import ParticleMomentum.Proofs.Evaluation.Completion

/-!
# The fused loop refines to the stepwise loop

Wherever the fused pair loop completes, the stepwise loop makes the same contributions in the same
order. The two differ in three places. The fused loop computes factors for a side that nobody wants; it
may refuse a zero divisor where the stepwise loop goes on; and it leaves the check of the diffusion
coefficient to the evaluation. All three only add faults on one side, so each term of the fused loop is
refined by the term of the same name of the stepwise loop. One term rests on arithmetic: the fused loop
multiplies the standard background pressure of the Adami scheme by one.
-/

namespace ParticleMomentum

variable {α : Type}

namespace Deposits

variable {β γ : Type} (target : Target)

@[simp] theorem into_mk (l : List (Deposit α)) (r : Except (Fault α) β) :
    Deposits.into target (⟨l, r⟩ : Deposits α β) =
      ⟨l.map fun d => ⟨target, d.side, d.amount⟩, r⟩ := rfl

theorem into_bind (t : Deposits α β) (f : β → Deposits α γ) :
    (t >>= f).into target = t.into target >>= fun b => (f b).into target := by
  obtain ⟨l, f | b⟩ := t
  · rfl
  · simp [Deposits.into]

theorem into_guarded (c : Bool) (t : Deposits α Unit) :
    Deposits.into target (Trail.guarded c t) = Trail.guarded c (t.into target) := by
  cases c <;> rfl

theorem into_onSides (wanted : Sides Bool) (onI onJ : Vector3 α) :
    (onSides wanted onI onJ).into target = Fused.addBoth target wanted onI onJ := by
  rw [onSides, into_bind, into_guarded]
  simp only [into_guarded]
  rfl

end Deposits

variable [Arithmetic α]

/-- A quotient that is not refused is the extended quotient. -/
theorem DivisionRule.quotient_extended {rule : DivisionRule} {x y q : α}
    (h : (rule.quotient x y : Except (Fault α) α) = .ok q) :
    (extended.quotient x y : Except (Fault α) α) = .ok q := by
  cases rule with
  | extended => exact h
  | strict =>
      change Arithmetic.quotient x y = _ at h
      rw [Arithmetic.quotient] at h
      split at h
      · cases h
      · exact h

/-- A quotient by a divisor that is not zero is never refused. -/
theorem DivisionRule.quotient_eq_extended {y : α} (nonzero : Arithmetic.isZero y = false)
    (rule : DivisionRule) (x : α) :
    (rule.quotient x y : Except (Fault α) α) = extended.quotient x y := by
  cases rule with
  | extended => rfl
  | strict =>
      change Arithmetic.quotient x y = _
      rw [Arithmetic.quotient, nonzero]
      rfl

namespace Fused

variable {n : Nat} (scheme : Scheme)

/-- The branch of the fused loop that a registered scheme takes. -/
abbrev branch : Bool := isMonaghan (FormulationClass.ofScheme scheme).number

theorem branch_monaghan : branch .monaghan = true := rfl

theorem branch_adami : branch .adami = false := rfl

theorem coefficients_eq (density mass slope : Sides α) :
    coefficients (branch scheme) density mass slope = scheme.coefficients density mass slope := by
  cases scheme <;> rfl

theorem pressureGradient_eq (p : Sides (Particle α)) (coefficient : Sides α)
    (direction : Vector3 α) :
    Stepwise.pressureGradient scheme p coefficient direction =
      pressureGradient (branch scheme) p coefficient direction := by
  cases scheme
  all_goals
    simp only [Stepwise.pressureGradient, Scheme.pressureGradient, Monaghan.pressureGradient,
      Adami.pressureGradient, Deposits.into_bind, Deposits.into_onSides]
    rfl

variable {scheme}

/-- The shear forces of the Monaghan scheme. The stepwise loop checks the diffusion coefficient, which
must not be negative. -/
theorem shear_monaghan {k : α} {p : Sides (Particle α)}
    (check : Evaluator.negativeDiffusion? k p = .ok none) (rule : DivisionRule) (distance : α)
    (coefficient : Sides α) (direction : Vector3 α) :
    Stepwise.shear .monaghan k p distance coefficient direction =
      shear (branch .monaghan) rule k p distance coefficient direction := by
  simp only [Stepwise.shear, Scheme.shearForces, Monaghan.shearForces, Fused.shear,
    branch_monaghan, if_true, Deposits.into_bind]
  refine Trail.bind_congr fun shear hs => ?_
  rw [if_neg (Evaluator.not_diffusion_neg check hs), Deposits.into_bind]
  simp only [Deposits.into_guarded]
  rfl

/-- The shear forces. -/
theorem shear_refinedBy {rule : DivisionRule} {k : α} {p : Sides (Particle α)}
    (check : scheme = .monaghan → Evaluator.negativeDiffusion? k p = .ok none) (distance : α)
    (coefficient : Sides α) (direction : Vector3 α) :
    (shear (branch scheme) rule k p distance coefficient direction).RefinedBy
      (Stepwise.shear scheme k p distance coefficient direction) := by
  cases scheme with
  | monaghan => exact Trail.RefinedBy.of_eq (shear_monaghan (check rfl) _ _ _ _)
  | adami =>
      simp only [Stepwise.shear, Scheme.shearForces, Adami.shearForces, Fused.shear, branch_adami]
      cases hv : Adami.isViscous (p.map (·.viscosity))
      · exact Trail.RefinedBy.refl _
      · simp only [if_true, Deposits.into_bind, Deposits.into_onSides]
        refine Trail.RefinedBy.bind (Trail.RefinedBy.refl _) fun mean _ => ?_
        exact Trail.RefinedBy.bind (Trail.RefinedBy.lift fun _ => DivisionRule.quotient_extended)
          fun factor _ => Trail.RefinedBy.refl _

omit [Arithmetic α] in
/-- The stepwise loop computes a factor of the generalized background pressure only for a side that
wants it. -/
theorem addBoth_refinedBy {r s : Except (Fault α) α} (target : Target) (owned : Sides Bool)
    (onI onJ : α → Vector3 α) :
    (do
      let x ← (do return (← r, ← s) : Except (Fault α) (α × α))
      addBoth target owned (onI x.1) (onJ x.2) : Contributions α Unit).RefinedBy
      (do
        Trail.guarded owned.i do Trail.emit ⟨target, .i, onI (← r)⟩
        Trail.guarded owned.j do Trail.emit ⟨target, .j, onJ (← s)⟩) := by
  obtain ⟨i, j⟩ := owned
  intro b h
  obtain ⟨x, hx, -⟩ := Trail.bind_result_eq_ok h
  rcases r with f | a
  · cases hx
  rcases s with f | a'
  · cases hx
  cases i <;> cases j <;> rfl

/-- The background pressure, unless it is generalized. A multiple by one is the vector itself. -/
theorem background_eq (mul_one : ∀ x : α, x * 1.0 = x) {kind : Background}
    (simple : kind ≠ .generalized) (p : Sides (Particle α)) (coefficient modifiedSlope : Sides α)
    (direction : Vector3 α) :
    Stepwise.background scheme kind p coefficient modifiedSlope direction =
      background (branch scheme) kind p coefficient modifiedSlope direction := by
  cases kind with
  | off => rfl
  | standard =>
      cases scheme with
      | monaghan =>
          simp only [Stepwise.background, Scheme.standardBackground, Monaghan.standardBackground,
            Deposits.into_bind, Deposits.into_onSides]
          rfl
      | adami =>
          simp only [Stepwise.background, Scheme.standardBackground, Adami.standardBackground,
            Deposits.into_onSides, background, background.standardFactor, branch_adami,
            Bool.false_eq_true, if_false, Trail.lift_ok_bind, mul_one]
          rfl
  | generalized => exact absurd rfl simple

/-- The background pressure. -/
theorem background_refinedBy (mul_one : ∀ x : α, x * 1.0 = x) (kind : Background)
    (p : Sides (Particle α)) (coefficient modifiedSlope : Sides α) (direction : Vector3 α) :
    (background (branch scheme) kind p coefficient modifiedSlope direction).RefinedBy
      (Stepwise.background scheme kind p coefficient modifiedSlope direction) := by
  cases kind with
  | off => exact Trail.RefinedBy.of_eq (background_eq mul_one (by decide) _ _ _ _)
  | standard => exact Trail.RefinedBy.of_eq (background_eq mul_one (by decide) _ _ _ _)
  | generalized =>
      cases scheme with
      | monaghan =>
          simp only [Stepwise.background, Scheme.generalizedBackground,
            Monaghan.generalizedBackgroundTerm, Deposits.into_bind, Deposits.into_guarded]
          exact addBoth_refinedBy .modifiedAcceleration (p.map (·.owned))
            (fun x => direction.scale (-x)) (fun x => direction.scale x)
      | adami =>
          simp only [Stepwise.background, Scheme.generalizedBackground,
            Adami.generalizedBackgroundTerm, Deposits.into_bind, Deposits.into_guarded]
          exact addBoth_refinedBy .modifiedAcceleration (p.map (·.owned))
            (fun x => direction.scale (-x)) (fun x => direction.scale x)

omit [Arithmetic α] in
theorem addBoth_ends (target : Target) (owned : Sides Bool) (onI onJ : Vector3 α) :
    (addBoth target owned onI onJ).Ends :=
  (Trail.Ends.guarded _ (.ok _ ())).bind fun _ _ => Trail.Ends.guarded _ (.ok _ ())

/-- The transport correction meets no fault; the Monaghan scheme divides by both densities for it. -/
theorem transport_ends {p : Sides (Particle α)} (divisors : scheme = .monaghan →
      Arithmetic.isZero p.i.density = false ∧ Arithmetic.isZero p.j.density = false)
    (rule : DivisionRule) (coefficient : Sides α) (direction : Vector3 α) :
    (transport (branch scheme) rule p coefficient direction).Ends := by
  refine Trail.Ends.bind (Trail.Ends.lift ?_) fun weights _ => addBoth_ends _ _ _ _
  cases scheme with
  | monaghan =>
      obtain ⟨divisorI, divisorJ⟩ := divisors rfl
      simp only [transport.weights, branch_monaghan, if_true]
      rw [DivisionRule.quotient_eq_extended divisorI, DivisionRule.quotient_eq_extended divisorJ]
      exact ⟨_, rfl⟩
  | adami => exact ⟨_, rfl⟩

theorem transportWeight_of_weights {rule : DivisionRule} {p : Sides (Particle α)} {wi wj : α}
    (h : (transport.weights (branch scheme) rule p : Except (Fault α) (α × α)) = .ok (wi, wj)) :
    scheme.transportWeight .extended p.i.density = .ok wi ∧
      scheme.transportWeight .extended p.j.density = .ok wj := by
  cases scheme with
  | adami =>
      cases h
      exact ⟨rfl, rfl⟩
  | monaghan =>
      simp only [transport.weights, branch_monaghan, if_true] at h
      rcases hi : (rule.quotient 1.0 p.i.density : Except (Fault α) α) with f | x
      · rw [hi] at h
        cases h
      rcases hj : (rule.quotient 1.0 p.j.density : Except (Fault α) α) with f | y
      · rw [hi, hj] at h
        cases h
      rw [hi, hj] at h
      cases h
      exact ⟨DivisionRule.quotient_extended hi, DivisionRule.quotient_extended hj⟩

/-- The transport correction. -/
theorem transport_refinedBy (rule : DivisionRule) (p : Sides (Particle α)) (coefficient : Sides α)
    (direction : Vector3 α) :
    (transport (branch scheme) rule p coefficient direction).RefinedBy
      (Stepwise.transport scheme p coefficient direction) := by
  intro b h
  obtain ⟨⟨wi, wj⟩, hw, -⟩ := Trail.bind_result_eq_ok h
  change transport.weights (branch scheme) rule p = .ok (wi, wj) at hw
  obtain ⟨hi, hj⟩ := transportWeight_of_weights hw
  simp only [transport, hw, Stepwise.transport, Scheme.transportCorrection, Scheme.addTransport,
    Sides.map, hi, hj, Deposits.into_bind, Deposits.into_onSides]
  rfl

/-- A pair of the fused loop is refined by the same pair of the stepwise loop. -/
theorem pair_refinedBy (mul_one : ∀ x : α, x * 1.0 = x) {plan : Plan α} {p : Sides (Particle α)}
    (check : scheme = .monaghan → Evaluator.negativeDiffusion? plan.convectionFactor p = .ok none)
    (rule : DivisionRule) (input : PairInput n α) :
    (pair (FormulationClass.ofScheme scheme).number rule plan p input).RefinedBy
      (Stepwise.pair scheme plan p input) := by
  apply Trail.RefinedBy.guarded
  simp only [ownedPair, Stepwise.ownedPair, pressureGradient_eq, coefficients_eq]
  refine Trail.RefinedBy.bind (Trail.RefinedBy.refl _) fun coefficient _ => ?_
  refine Trail.RefinedBy.bind (Trail.RefinedBy.refl _) fun _ _ => ?_
  refine Trail.RefinedBy.bind (shear_refinedBy check _ _ _) fun _ _ => ?_
  refine Trail.RefinedBy.bind (background_refinedBy mul_one _ _ _ _ _) fun _ _ => ?_
  exact Trail.RefinedBy.guarded _ (transport_refinedBy rule p coefficient _)

end Fused

namespace Evaluator

variable {n : Nat} {ev : Evaluator α} {scheme : Scheme} {plan : Plan α} {e : Ensemble n α}
variable {rows : List (PairRow n α)} {modified : Sides (Option (List α))}
variable {inputs : List (PairInput n α)}

/-- A pair of the fused loop is refined by the same pair of the stepwise loop, once the diffusion
coefficients have been checked. -/
theorem pair_refinedBy_of_check (mul_one : ∀ x : α, x * 1.0 = x)
    (check : (checkDiffusion (FormulationClass.ofScheme scheme) plan.convectionFactor e rows).result =
      .ok ())
    (rule : DivisionRule) (input : PairInput n α) (hmem : input.row ∈ rows) :
    (Fused.pair (FormulationClass.ofScheme scheme).number rule plan (e.sides input.row)
      input).RefinedBy (Stepwise.pair scheme plan (e.sides input.row) input) := by
  apply Fused.pair_refinedBy mul_one
  rintro rfl
  exact checkDiffusion_result_eq_ok_iff.mp check rfl _ hmem

/-- An evaluation that completes sweeps through the pairs as the stepwise loop does, whichever loop it
runs. -/
theorem Completes.sweep_stepwise (mul_one : ∀ x : α, x * 1.0 = x)
    (h : ev.Completes (FormulationClass.ofScheme scheme) plan rows modified e inputs) :
    e.sweep (fun input => Stepwise.pair scheme plan (e.sides input.row) input) inputs =
      e.sweep (contributions (FormulationClass.ofScheme scheme) plan ev.fusedRule e) inputs := by
  apply Ensemble.sweep_eq_of_refinedBy _ h.sweep
  intro input hmem
  rw [contributions]
  cases plan.backend with
  | stepwise => cases scheme <;> exact Trail.RefinedBy.refl _
  | fused =>
      have row_mem := row_mem_of_mem_inputs h.inputs_eq input hmem
      exact pair_refinedBy_of_check mul_one h.check _ _ row_mem

/-- The evaluator with the other choice of the pair loop in its plan. -/
def withBackend (ev : Evaluator α) (backend : Backend) : Evaluator α :=
  { ev with plan := ev.plan.map fun plan => { plan with backend } }

omit [Arithmetic α] in
theorem plan_withBackend (planned : ev.plan = some plan) (backend : Backend) :
    (ev.withBackend backend).plan = some { plan with backend } := by
  rw [withBackend, planned]
  rfl

/-- If an evaluation by the fused loop completes, so does the evaluation by the stepwise loop, and it
leaves the same ensemble. Of the arithmetic nothing is asked but that a multiple by one is the number
itself. -/
theorem evaluate_stepwise_of_fused (mul_one : ∀ x : α, x * 1.0 = x) (ev : Evaluator α)
    (scheme : Scheme) (rows : List (PairRow n α)) (modified : Sides (Option (List α)))
    (e : Ensemble n α)
    (completes : ((ev.withBackend .fused).evaluate (FormulationClass.ofScheme scheme) rows modified
      e).1.result = .ok ()) :
    let stepwise :=
      (ev.withBackend .stepwise).evaluate (FormulationClass.ofScheme scheme) rows modified e
    let fused := (ev.withBackend .fused).evaluate (FormulationClass.ofScheme scheme) rows modified e
    stepwise.1.result = .ok () ∧ stepwise.2 = fused.2 := by
  intro stepwise fused
  rcases hp : ev.plan with _ | plan
  · -- without a plan the fused evaluation does not complete
    simp only [withBackend, hp, Option.map_none, evaluate] at completes
    cases completes
  · obtain ⟨inputs, h⟩ := completes_of_evaluate_eq_ok (plan_withBackend hp .fused) completes
    have same := h.sweep_stepwise mul_one
    have h' : (ev.withBackend .stepwise).Completes (FormulationClass.ofScheme scheme)
        { plan with backend := .stepwise } rows modified e inputs := by
      refine ⟨plan_withBackend hp .stepwise, h.inputs_eq, h.check, ?_⟩
      cases scheme <;> exact (congrArg Prod.snd same).trans h.sweep
    have hs : stepwise = _ := h'.evaluate_eq
    have hfu : fused = _ := h.evaluate_eq
    rw [hs, hfu]
    refine ⟨rfl, ?_⟩
    cases scheme <;> exact congrArg Prod.fst same

/-- On doubles, an evaluation by the stepwise loop completes wherever the fused loop does, and both
accumulators of every particle are the same, bit for bit. -/
theorem stepwise_completes_as_fused (ev : Evaluator Float) (scheme : Scheme)
    (rows : List (PairRow n Float)) (modified : Sides (Option (List Float))) (e : Ensemble n Float)
    (completes : ((ev.withBackend .fused).evaluate (FormulationClass.ofScheme scheme) rows modified
      e).1.result = .ok ()) :
    let stepwise :=
      (ev.withBackend .stepwise).evaluate (FormulationClass.ofScheme scheme) rows modified e
    let fused := (ev.withBackend .fused).evaluate (FormulationClass.ofScheme scheme) rows modified e
    stepwise.1.result = .ok () ∧ stepwise.2 = fused.2 :=
  evaluate_stepwise_of_fused Double.mul_one ev scheme rows modified e completes

def viscousPair : Ensemble 2 Float :=
  ⟨Vector.replicate 2
    { (Particle.fresh : Particle Float) with
      mass := 2.0, density := 4.0, pressure := 3.0, viscosity := 1.0, backgroundPressure := 1.0,
      owned := true }⟩

def viscousRow : PairRow 2 Float := Neighbours.rowOf ⟨0, 1, ⟨1.0, 0.0, 0.0⟩, 1.0⟩ (-0.5)

def allTerms : Evaluator Float :=
  ⟨.null, some ⟨.standard, true, .fused, 5.0⟩, .strict⟩

theorem stepwise_completes_as_fused_viscousPair :
    ((allTerms.withBackend .fused).evaluate (FormulationClass.ofScheme .adami) [viscousRow]
      ⟨none, none⟩ viscousPair).1.result = .ok () ∧
    ((allTerms.withBackend .stepwise).evaluate (FormulationClass.ofScheme .adami) [viscousRow]
      ⟨none, none⟩ viscousPair).2 =
    ((allTerms.withBackend .fused).evaluate (FormulationClass.ofScheme .adami) [viscousRow]
      ⟨none, none⟩ viscousPair).2 :=
  have completes : ((allTerms.withBackend .fused).evaluate (FormulationClass.ofScheme .adami)
      [viscousRow] ⟨none, none⟩ viscousPair).1.result = .ok () := rfl
  ⟨completes, (stepwise_completes_as_fused allTerms .adami [viscousRow] ⟨none, none⟩ viscousPair
    completes).2⟩

end Evaluator

end ParticleMomentum
