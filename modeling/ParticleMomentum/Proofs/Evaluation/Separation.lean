import ParticleMomentum.Proofs.Evaluation.Backends

/-!
# Separate accumulators

A particle has two accumulators. The background pressure is all that goes to the modified acceleration,
and nothing else does; so neither accumulator depends on what only the other one is made of. Two
evaluations are compared that may go different ways at every pair: by another background pressure, or by
other velocities and viscosities. Of the contributions to the accumulator in question both make the same
ones in the same order, and this is all that an accumulator sees of a run.
-/

namespace ParticleMomentum

open Trail (Emits)

variable {n : Nat} {α : Type}

/-! ## Trails that agree on some of their items -/

namespace Trail

variable {ω ε β γ : Type}

/-- If both trails end with a value then it is the same one, and the items that are kept are the same. -/
def AgreeOn (keep : ω → Bool) (t u : Trail ω ε β) : Prop :=
  ∀ b c, t.result = .ok b → u.result = .ok c → b = c ∧ t.items.filter keep = u.items.filter keep

/-- Nothing is kept of a trail whose items are all to be dropped. -/
theorem Emits.filter_eq_nil {keep : ω → Bool} {t : Trail ω ε β} (h : t.Emits (keep · = false)) :
    t.items.filter keep = [] :=
  List.filter_eq_nil_iff.mpr fun w hw => Bool.eq_false_iff.mp (h w hw)

theorem Emits.guarded {P : ω → Prop} {t : Trail ω ε Unit} (c : Bool) (h : t.Emits P) :
    (Trail.guarded c t).Emits P := by
  cases c
  · exact silent _
  · exact h

namespace AgreeOn

variable {keep : ω → Bool}

theorem refl (t : Trail ω ε β) : AgreeOn keep t t := by
  intro b c hb hc
  rw [hb] at hc
  cases hc
  exact ⟨rfl, rfl⟩

/-- Trails of which nothing is kept need not have anything in common. -/
theorem of_dropped {t u : Trail ω ε Unit} (ht : t.Emits (keep · = false))
    (hu : u.Emits (keep · = false)) : AgreeOn keep t u := by
  intro b c _ _
  exact ⟨rfl, ht.filter_eq_nil.trans hu.filter_eq_nil.symm⟩

theorem bind {t u : Trail ω ε β} {f g : β → Trail ω ε γ} (first : AgreeOn keep t u)
    (rest : ∀ b, AgreeOn keep (f b) (g b)) : AgreeOn keep (t >>= f) (u >>= g) := by
  intro c d hc hd
  obtain ⟨b, hb, hc⟩ := bind_result_eq_ok hc
  obtain ⟨b', hb', hd⟩ := bind_result_eq_ok hd
  obtain ⟨rfl, items⟩ := first b b' hb hb'
  obtain ⟨same, more⟩ := rest b c d hc hd
  obtain ⟨l, r⟩ := t
  obtain ⟨l', r'⟩ := u
  subst hb hb'
  refine ⟨same, ?_⟩
  rw [ok_bind, ok_bind, List.filter_append, List.filter_append, items, more]

theorem guarded {t u : Trail ω ε Unit} (c : Bool) (h : AgreeOn keep t u) :
    AgreeOn keep (Trail.guarded c t) (Trail.guarded c u) := by
  cases c
  · exact refl _
  · exact h

end AgreeOn

end Trail

open Trail (AgreeOn)

/-! ## Contributions to one accumulator -/

namespace Contribution

/-- The contribution goes to an accumulator. -/
def feeds (target : Target) (c : Contribution α) : Bool := c.target == target

theorem feeds_eq_false {target other : Target} (different : other ≠ target) {c : Contribution α}
    (h : c.target = other) : c.feeds target = false := by
  rw [feeds, h]
  exact beq_false_of_ne different

end Contribution

/-- Everything that the trail makes goes to one accumulator. -/
abbrev OnlyTo {β : Type} (target : Target) (t : Contributions α β) : Prop :=
  t.Emits (·.target = target)

/-- What goes to one accumulator only does not reach another one. -/
theorem OnlyTo.dropped {β : Type} {target other : Target} {t : Contributions α β} (h : OnlyTo other t)
    (different : other ≠ target) : t.Emits (Contribution.feeds target · = false) :=
  fun c hc => Contribution.feeds_eq_false different (h c hc)

theorem Deposits.into_onlyTo {β : Type} (target : Target) (t : Deposits α β) :
    OnlyTo target (t.into target) := by
  intro c hc
  obtain ⟨d, -, rfl⟩ := List.mem_map.mp hc
  rfl

theorem Fused.addBoth_onlyTo (target : Target) (owned : Sides Bool) (onI onJ : Vector3 α) :
    OnlyTo target (Fused.addBoth target owned onI onJ) :=
  Emits.bind (Emits.guarded _ (Emits.emit rfl)) fun _ => Emits.guarded _ (Emits.emit rfl)

/-! ## What an accumulator sees -/

def Particle.accumulator (q : Particle α) : Target → Vector3 α
  | .acceleration => q.acceleration
  | .modifiedAcceleration => q.modifiedAcceleration

def Ensemble.accumulator (e : Ensemble n α) (target : Target) (k : Fin n) : Vector3 α :=
  e.particles[k].accumulator target

section

variable [Arithmetic α]

/-- Adds a vector to the accumulator of the particle on a side of a pair. -/
def PairRow.addTo (row : PairRow n α) (values : Fin n → Vector3 α) (c : Contribution α) :
    Fin n → Vector3 α :=
  fun k => if row.particles.get c.side = k then values k + c.amount else values k

theorem Particle.accumulator_add (q : Particle α) (target other : Target) (v : Vector3 α) :
    (q.add other v).accumulator target =
      if other = target then q.accumulator target + v else q.accumulator target := by
  cases other <;> cases target <;> rfl

namespace Ensemble

/-- An accumulator receives just the contributions to it. -/
theorem accumulator_contribute (e : Ensemble n α) (row : PairRow n α) (c : Contribution α)
    (target : Target) :
    (e.contribute row c).accumulator target =
      if c.feeds target then row.addTo (e.accumulator target) c else e.accumulator target := by
  have asked : c.feeds target = true ↔ c.target = target := beq_iff_eq
  funext k
  rw [accumulator, contribute_particle]
  by_cases reached : row.particles.get c.side = k
  · rw [if_pos reached, Particle.accumulator_add]
    by_cases same : c.target = target
    · rw [if_pos same, if_pos (asked.mpr same), PairRow.addTo, if_pos reached]
      rfl
    · rw [if_neg same, if_neg (mt asked.mp same)]
      rfl
  · rw [if_neg reached]
    split
    · rw [PairRow.addTo, if_neg reached]
      rfl
    · rfl

theorem accumulator_foldl_contribute (e : Ensemble n α) (row : PairRow n α)
    (items : List (Contribution α)) (target : Target) :
    (items.foldl (contribute row) e).accumulator target =
      (items.filter (·.feeds target)).foldl row.addTo (e.accumulator target) := by
  induction items generalizing e with
  | nil => rfl
  | cons c items ih =>
      rw [List.foldl_cons, ih, accumulator_contribute, List.filter_cons]
      split <;> rfl

variable {target : Target} {contributions contributions' : PairInput n α → Contributions α Unit}

/-- Two sweeps without a fault leave an accumulator alike if they start so and their pairs agree on what
goes to it. -/
theorem accumulator_sweep {inputs inputs' : List (PairInput n α)} {e e' : Ensemble n α}
    (pairs : List.Forall₂ (fun input input' => input'.row = input.row ∧
      AgreeOn (Contribution.feeds target) (contributions input) (contributions' input')) inputs inputs')
    (start : e'.accumulator target = e.accumulator target)
    (h : (e.sweep contributions inputs).2 = .ok ())
    (h' : (e'.sweep contributions' inputs').2 = .ok ()) :
    (e'.sweep contributions' inputs').1.accumulator target =
      (e.sweep contributions inputs).1.accumulator target := by
  induction pairs generalizing e e' with
  | nil => exact start
  | @cons input input' _ _ first _ ih =>
      obtain ⟨sameRow, agree⟩ := first
      obtain ⟨ended, goesOn⟩ := sweep_cons_eq_ok h
      obtain ⟨ended', goesOn'⟩ := sweep_cons_eq_ok h'
      rw [goesOn] at h ⊢
      rw [goesOn'] at h' ⊢
      refine ih ?_ h h'
      rw [accumulator_foldl_contribute, accumulator_foldl_contribute, sameRow, start,
        (agree () () ended ended').2]

/-- A sweep, with or without a fault, leaves an accumulator alone to which nothing goes. -/
theorem accumulator_sweep_of_dropped {inputs : List (PairInput n α)} {e : Ensemble n α}
    (pairs : ∀ input, (contributions input).Emits (Contribution.feeds target · = false)) :
    (e.sweep contributions inputs).1.accumulator target = e.accumulator target := by
  induction inputs generalizing e with
  | nil => rfl
  | cons input rest ih =>
      have received : ((contributions input).items.foldl (contribute input.row) e).accumulator target =
          e.accumulator target := by
        rw [accumulator_foldl_contribute, (pairs input).filter_eq_nil]
        rfl
      rw [sweep_cons]
      split
      · exact ih.trans received
      · exact received

end Ensemble

end

/-! ## Evaluations that differ in what an accumulator is not made of -/

/-- The particles differ at most in what an accumulator is not made of. The modified acceleration is made
of masses, densities and background pressures; the acceleration of everything but the background pressure. -/
def Particle.AlikeFor : Target → Particle α → Particle α → Prop
  | .acceleration, q, q' =>
    ∃ backgroundPressure modifiedAcceleration,
      q' = { q with backgroundPressure, modifiedAcceleration }
  | .modifiedAcceleration, q, q' =>
    ∃ pressure velocity modifiedVelocity viscosity bulkViscosity acceleration,
      q' = { q with pressure, velocity, modifiedVelocity, viscosity, bulkViscosity, acceleration }

/-- The plans differ at most in what an accumulator is not made by. -/
def Plan.AlikeFor : Target → Plan α → Plan α → Prop
  | .acceleration, plan, plan' => ∃ background, plan' = { plan with background }
  | .modifiedAcceleration, plan, plan' =>
    ∃ transport convectionFactor, plan' = { plan with transport, convectionFactor }

/-- The pairs are the same up to the modified slopes, which only the modified acceleration is made of. -/
def PairInput.AlikeFor (target : Target) (input input' : PairInput n α) : Prop :=
  input'.row = input.row ∧
    (target = .modifiedAcceleration → input'.modifiedSlope = input.modifiedSlope)

theorem Particle.AlikeFor.accumulator_eq {target : Target} {q q' : Particle α}
    (h : Particle.AlikeFor target q q') : q'.accumulator target = q.accumulator target := by
  cases target with
  | acceleration =>
      obtain ⟨_, _, rfl⟩ := h
      rfl
  | modifiedAcceleration =>
      obtain ⟨_, _, _, _, _, _, rfl⟩ := h
      rfl

/-! ## The terms of a pair -/

/-- What a loop goes through for a pair, if one of its particles is owned. -/
structure PairTerms (α : Type) where
  owned : Bool
  coefficients : Except (Fault α) (Sides α)
  pressureGradient : Sides α → Contributions α Unit
  shear : Sides α → Contributions α Unit
  background : Sides α → Contributions α Unit
  transport : Sides α → Contributions α Unit

namespace PairTerms

def contributions (terms : PairTerms α) : Contributions α Unit :=
  Trail.guarded terms.owned do
    let coefficient ← terms.coefficients
    terms.pressureGradient coefficient
    terms.shear coefficient
    terms.background coefficient
    terms.transport coefficient

structure Aimed (terms : PairTerms α) : Prop where
  pressureGradient : ∀ c, OnlyTo .acceleration (terms.pressureGradient c)
  shear : ∀ c, OnlyTo .acceleration (terms.shear c)
  background : ∀ c, OnlyTo .modifiedAcceleration (terms.background c)
  transport : ∀ c, OnlyTo .acceleration (terms.transport c)

/-- The terms differ at most in those that are meant for the other accumulator. -/
def AlikeFor : Target → PairTerms α → PairTerms α → Prop
  | .acceleration, terms, terms' => ∃ background, terms' = { terms with background }
  | .modifiedAcceleration, terms, terms' =>
    ∃ pressureGradient shear transport, terms' = { terms with pressureGradient, shear, transport }

variable {target : Target} {terms terms' : PairTerms α}

/-- Terms that differ only in what is meant for the other accumulator agree on what goes to this one. -/
theorem Aimed.agreeOn (aimed : terms.Aimed) (aimed' : terms'.Aimed)
    (alike : AlikeFor target terms terms') :
    AgreeOn (Contribution.feeds target) terms.contributions terms'.contributions := by
  cases target with
  | acceleration =>
      obtain ⟨background, rfl⟩ := alike
      refine .guarded _ ((AgreeOn.refl _).bind fun c => ?_)
      refine (AgreeOn.refl _).bind fun _ => (AgreeOn.refl _).bind fun _ => ?_
      refine AgreeOn.bind ?_ fun _ => AgreeOn.refl _
      exact .of_dropped ((aimed.background c).dropped nofun) ((aimed'.background c).dropped nofun)
  | modifiedAcceleration =>
      obtain ⟨pressureGradient, shear, transport, rfl⟩ := alike
      refine .guarded _ ((AgreeOn.refl _).bind fun c => AgreeOn.bind ?_ fun _ => ?_)
      · exact .of_dropped ((aimed.pressureGradient c).dropped nofun)
          ((aimed'.pressureGradient c).dropped nofun)
      refine AgreeOn.bind ?_ fun _ => (AgreeOn.refl _).bind fun _ => ?_
      · exact .of_dropped ((aimed.shear c).dropped nofun) ((aimed'.shear c).dropped nofun)
      · exact .of_dropped ((aimed.transport c).dropped nofun) ((aimed'.transport c).dropped nofun)

/-- Where there is no background pressure, everything goes to the accelerations. -/
theorem Aimed.onlyTo_acceleration (aimed : terms.Aimed) (off : ∀ c, terms.background c = pure ()) :
    OnlyTo .acceleration terms.contributions := by
  refine Emits.guarded _ ((Emits.silent _).bind fun c => ?_)
  refine (aimed.pressureGradient c).bind fun _ => (aimed.shear c).bind fun _ => ?_
  rw [off c]
  exact (Emits.silent _).bind fun _ => aimed.transport c

end PairTerms

variable [Arithmetic α]

namespace Stepwise

def terms (scheme : Scheme) (plan : Plan α) (p : Sides (Particle α)) (input : PairInput n α) :
    PairTerms α where
  owned := p.i.owned || p.j.owned
  coefficients := scheme.coefficients (p.map (·.density)) (p.map (·.mass)) input.row.slope
  pressureGradient c := pressureGradient scheme p c input.row.direction
  shear c := shear scheme plan.convectionFactor p input.row.distance c input.row.direction
  background c := background scheme plan.background p c input.modifiedSlope input.row.direction
  transport c := Trail.guarded plan.transport (transport scheme p c input.row.direction)

theorem terms_aimed (scheme : Scheme) (plan : Plan α) (p : Sides (Particle α))
    (input : PairInput n α) : (terms scheme plan p input).Aimed where
  pressureGradient _ := Deposits.into_onlyTo _ _
  shear _ := Deposits.into_onlyTo _ _
  background _ := by
    rw [terms]
    cases plan.background with
    | off => exact Emits.silent _
    | standard => exact Deposits.into_onlyTo _ _
    | generalized => exact Deposits.into_onlyTo _ _
  transport _ := Emits.guarded _ (Deposits.into_onlyTo _ _)

end Stepwise

namespace Fused

def terms (number : Int) (rule : DivisionRule) (plan : Plan α) (p : Sides (Particle α))
    (input : PairInput n α) : PairTerms α where
  owned := p.i.owned || p.j.owned
  coefficients :=
    coefficients (isMonaghan number) (p.map (·.density)) (p.map (·.mass)) input.row.slope
  pressureGradient c := pressureGradient (isMonaghan number) p c input.row.direction
  shear c := shear (isMonaghan number) rule plan.convectionFactor p input.row.distance c
    input.row.direction
  background c :=
    background (isMonaghan number) plan.background p c input.modifiedSlope input.row.direction
  transport c :=
    Trail.guarded plan.transport (transport (isMonaghan number) rule p c input.row.direction)

theorem shear_onlyTo (monaghan : Bool) (rule : DivisionRule) (k : α) (p : Sides (Particle α))
    (distance : α) (coefficient : Sides α) (direction : Vector3 α) :
    OnlyTo .acceleration (shear monaghan rule k p distance coefficient direction) := by
  rw [shear]
  cases monaghan with
  | true =>
      refine Emits.bind (Emits.silent _) fun _ => Emits.bind ?_ fun _ => ?_
      all_goals exact Emits.guarded _ (Deposits.into_onlyTo _ _)
  | false =>
      split
      · next h => cases h
      split
      · refine Emits.bind (Emits.silent _) fun _ => Emits.bind (Emits.silent _) fun _ => ?_
        exact addBoth_onlyTo _ _ _ _
      · exact Emits.silent _

theorem terms_aimed (number : Int) (rule : DivisionRule) (plan : Plan α) (p : Sides (Particle α))
    (input : PairInput n α) : (terms number rule plan p input).Aimed where
  pressureGradient _ := (Emits.silent _).bind fun _ => addBoth_onlyTo _ _ _ _
  shear _ := shear_onlyTo _ _ _ _ _ _ _
  background _ := by
    rw [terms]
    cases plan.background with
    | off => exact Emits.silent _
    | standard => exact Emits.bind (Emits.silent _) fun _ => addBoth_onlyTo _ _ _ _
    | generalized => exact Emits.bind (Emits.silent _) fun _ => addBoth_onlyTo _ _ _ _
  transport _ := Emits.guarded _ (Emits.bind (Emits.silent _) fun _ => addBoth_onlyTo _ _ _ _)

end Fused

/-! ## Evaluations -/

/-- Every particle differs at most in what an accumulator is not made of. -/
def Ensemble.AlikeFor (target : Target) (e e' : Ensemble n α) : Prop :=
  ∀ k : Fin n, Particle.AlikeFor target e.particles[k] e'.particles[k]

namespace Evaluator

/-- The evaluators differ at most in their settings, and in what of their plans an accumulator is not made
by. -/
structure AlikeFor (target : Target) (ev ev' : Evaluator α) : Prop where
  fusedRule : ev'.fusedRule = ev.fusedRule
  plans : Option.Rel (Plan.AlikeFor target) ev.plan ev'.plan

variable {kind : FormulationClass} {plan plan' : Plan α} {rule : DivisionRule} {target : Target}
variable {e e' : Ensemble n α} {input input' : PairInput n α}

/-- The terms of a pair by a plan. -/
def terms (kind : FormulationClass) (plan : Plan α) (rule : DivisionRule) (p : Sides (Particle α))
    (input : PairInput n α) : PairTerms α :=
  match plan.backend with
  | .fused => Fused.terms kind.number rule plan p input
  | .stepwise => Stepwise.terms kind.scheme plan p input

theorem contributions_eq_terms : contributions kind plan rule e input =
    (terms kind plan rule (e.sides input.row) input).contributions := by
  rw [contributions, terms]
  cases plan.backend <;> rfl

theorem terms_aimed (p : Sides (Particle α)) : (terms kind plan rule p input).Aimed := by
  rw [terms]
  cases plan.backend with
  | fused => exact Fused.terms_aimed _ _ _ _ _
  | stepwise => exact Stepwise.terms_aimed _ _ _ _

theorem terms_alikeFor {p p' : Sides (Particle α)} (plans : Plan.AlikeFor target plan plan')
    (onI : Particle.AlikeFor target p.i p'.i) (onJ : Particle.AlikeFor target p.j p'.j)
    (inputs : PairInput.AlikeFor target input input') :
    PairTerms.AlikeFor target (terms kind plan rule p input) (terms kind plan' rule p' input') := by
  obtain ⟨pi, pj⟩ := p
  obtain ⟨pi', pj'⟩ := p'
  obtain ⟨background, transport, backend, k⟩ := plan
  obtain ⟨row, slope⟩ := input
  obtain ⟨row', slope'⟩ := input'
  obtain ⟨rfl, slopes⟩ := inputs
  cases target with
  | acceleration =>
      obtain ⟨_, rfl⟩ := plans
      obtain ⟨_, _, rfl⟩ := onI
      obtain ⟨_, _, rfl⟩ := onJ
      cases backend <;> exact ⟨_, rfl⟩
  | modifiedAcceleration =>
      obtain ⟨_, _, rfl⟩ := plans
      obtain ⟨_, _, _, _, _, _, rfl⟩ := onI
      obtain ⟨_, _, _, _, _, _, rfl⟩ := onJ
      obtain rfl := slopes rfl
      cases backend <;> exact ⟨_, _, _, rfl⟩

/-- Pairs that differ in what an accumulator is not made of agree on what goes to it. -/
theorem contributions_agreeOn (plans : Plan.AlikeFor target plan plan')
    (ensembles : Ensemble.AlikeFor target e e') (inputs : PairInput.AlikeFor target input input') :
    AgreeOn (Contribution.feeds target) (contributions kind plan rule e input)
      (contributions kind plan' rule e' input') := by
  rw [contributions_eq_terms, contributions_eq_terms, inputs.1]
  refine (terms_aimed _).agreeOn (terms_aimed _) (terms_alikeFor plans ?_ ?_ inputs)
  · exact ensembles _
  · exact ensembles _

/-- Without a background pressure nothing goes to the modified accelerations. -/
theorem contributions_dropped (off : plan.background = .off) :
    (contributions kind plan rule e input).Emits
      (Contribution.feeds .modifiedAcceleration · = false) := by
  rw [contributions_eq_terms]
  refine OnlyTo.dropped ((terms_aimed _).onlyTo_acceleration fun c => ?_) nofun
  rw [terms]
  cases plan.backend with
  | fused =>
      rw [Fused.terms]
      simp only [off]
      rfl
  | stepwise =>
      rw [Stepwise.terms]
      simp only [off]
      rfl

omit [Arithmetic α] in
theorem inputs_alikeFor {rows : List (PairRow n α)} {modified modified' : Sides (Option (List α))}
    {inputs inputs' : List (PairInput n α)} (h : Evaluator.inputs rows modified = .ok inputs)
    (h' : Evaluator.inputs rows modified' = .ok inputs')
    (slopes : target = .modifiedAcceleration → modified' = modified) :
    List.Forall₂ (PairInput.AlikeFor target) inputs inputs' := by
  cases target with
  | acceleration =>
      have sameRows : inputs'.map (·.row) = inputs.map (·.row) :=
        (map_row_inputs h').trans (map_row_inputs h).symm
      rw [← List.forall₂_eq_eq_eq, List.forall₂_map_left_iff, List.forall₂_map_right_iff] at sameRows
      exact sameRows.flip.imp fun _ _ row => ⟨row, nofun⟩
  | modifiedAcceleration =>
      rw [slopes rfl, h] at h'
      cases h'
      exact List.forall₂_same.mpr fun _ _ => ⟨rfl, fun _ => rfl⟩

/-- The accumulators do not leak into each other. Two evaluations of the same pairs that complete, with
evaluators and ensembles that differ only in what an accumulator is not made of, leave the same in that
accumulator of every particle: the accelerations do not depend on the background pressure, nor the
modified accelerations on anything else that acts. With the background pressure switched off, no
evaluation changes the modified accelerations, whether it completes or not. -/
theorem accumulators_separate (kind : FormulationClass) (rows : List (PairRow n α)) :
    (∀ (target : Target) (ev ev' : Evaluator α) (modified modified' : Sides (Option (List α)))
      (e e' : Ensemble n α), AlikeFor target ev ev' →
      (target = .modifiedAcceleration → modified' = modified) → Ensemble.AlikeFor target e e' →
      (ev.evaluate kind rows modified e).1.result = .ok () →
      (ev'.evaluate kind rows modified' e').1.result = .ok () →
      ∀ k : Fin n, (ev'.evaluate kind rows modified' e').2.particles[k].accumulator target =
        (ev.evaluate kind rows modified e).2.particles[k].accumulator target) ∧
    ∀ (ev : Evaluator α) (plan : Plan α) (modified : Sides (Option (List α))) (e : Ensemble n α),
      ev.plan = some plan → plan.background = .off →
      ∀ k : Fin n, (ev.evaluate kind rows modified e).2.particles[k].modifiedAcceleration =
        e.particles[k].modifiedAcceleration := by
  constructor
  · intro target ev ev' modified modified' e e' evaluators slopes ensembles completes completes' k
    obtain ⟨plan, planned⟩ := exists_plan_of_evaluate_eq_ok completes
    obtain ⟨plan', planned'⟩ := exists_plan_of_evaluate_eq_ok completes'
    have plans : Plan.AlikeFor target plan plan' := by
      have related := evaluators.plans
      rw [planned, planned'] at related
      cases related with
      | some related => exact related
    obtain ⟨inputs, h⟩ := completes_of_evaluate_eq_ok planned completes
    obtain ⟨inputs', h'⟩ := completes_of_evaluate_eq_ok planned' completes'
    have start : e'.accumulator target = e.accumulator target :=
      funext fun k => (ensembles k).accumulator_eq
    have pairs : List.Forall₂ (fun input input' => input'.row = input.row ∧
        AgreeOn (Contribution.feeds target) (contributions kind plan ev.fusedRule e input)
          (contributions kind plan' ev.fusedRule e' input')) inputs inputs' :=
      (inputs_alikeFor h.inputs_eq h'.inputs_eq slopes).imp fun _ _ alike =>
        ⟨alike.1, contributions_agreeOn plans ensembles alike⟩
    have ended' := h'.sweep
    rw [evaluators.fusedRule] at ended'
    rw [h.evaluate_eq, h'.evaluate_eq, evaluators.fusedRule]
    exact congrFun (Ensemble.accumulator_sweep pairs start h.sweep ended') k
  · intro ev plan modified e planned off k
    rcases evaluate_leaves planned with untouched | ⟨inputs, swept⟩
    · rw [untouched]
    · rw [swept]
      exact congrFun (Ensemble.accumulator_sweep_of_dropped fun _ => contributions_dropped off) k

def repressedPair : Ensemble 2 Float :=
  viscousPair.mapParticles fun _ q =>
    { q with backgroundPressure := 7.0, modifiedAcceleration := ⟨1.0, 0.0, 0.0⟩ }

def driftingPair : Ensemble 2 Float :=
  viscousPair.mapParticles fun k q =>
    { q with velocity := ⟨if k = 0 then 1.0 else 2.0, 0.0, 0.0⟩, pressure := 5.0, viscosity := 2.0 }

/-- An evaluator of a given background pressure, with or without transport correction. -/
def evaluatorOf (background : Background) (transport : Bool) : Evaluator Float :=
  ⟨.null, some ⟨background, transport, .fused, 5.0⟩, .strict⟩

theorem accumulators_separate_viscousPair :
    AlikeFor .acceleration allTerms (evaluatorOf .generalized true) ∧
    Ensemble.AlikeFor .acceleration viscousPair repressedPair ∧
    AlikeFor .modifiedAcceleration allTerms (evaluatorOf .standard false) ∧
    Ensemble.AlikeFor .modifiedAcceleration viscousPair driftingPair ∧
    (allTerms.evaluate .adami [viscousRow] ⟨none, none⟩ viscousPair).1.result = .ok () ∧
    ((evaluatorOf .generalized true).evaluate .adami [viscousRow] ⟨some [3.0], none⟩
      repressedPair).1.result = .ok () ∧
    ((evaluatorOf .standard false).evaluate .adami [viscousRow] ⟨none, none⟩
      driftingPair).1.result = .ok () ∧
    (((evaluatorOf .generalized true).evaluate .adami [viscousRow] ⟨some [3.0], none⟩
        repressedPair).2.particles.get 0).acceleration =
      ((allTerms.evaluate .adami [viscousRow] ⟨none, none⟩ viscousPair).2.particles.get 0).acceleration ∧
    (((evaluatorOf .standard false).evaluate .adami [viscousRow] ⟨none, none⟩
        driftingPair).2.particles.get 0).modifiedAcceleration =
      ((allTerms.evaluate .adami [viscousRow] ⟨none, none⟩
        viscousPair).2.particles.get 0).modifiedAcceleration ∧
    (((evaluatorOf .off true).evaluate .adami [viscousRow] ⟨none, none⟩
        repressedPair).2.particles.get 0).modifiedAcceleration =
      (repressedPair.particles.get 0).modifiedAcceleration := by
  have repressed : Ensemble.AlikeFor .acceleration viscousPair repressedPair := fun k =>
    ⟨_, _, Ensemble.mapParticles_particle _ _ k⟩
  have drifting : Ensemble.AlikeFor .modifiedAcceleration viscousPair driftingPair := fun k =>
    ⟨_, _, _, _, _, _, Ensemble.mapParticles_particle _ _ k⟩
  have otherBackground : AlikeFor .acceleration allTerms (evaluatorOf .generalized true) :=
    ⟨rfl, .some ⟨_, rfl⟩⟩
  have otherTransport : AlikeFor .modifiedAcceleration allTerms (evaluatorOf .standard false) :=
    ⟨rfl, .some ⟨_, _, rfl⟩⟩
  have ends : (allTerms.evaluate .adami [viscousRow] ⟨none, none⟩ viscousPair).1.result = .ok () := rfl
  have endsRepressed : ((evaluatorOf .generalized true).evaluate .adami [viscousRow] ⟨some [3.0], none⟩
      repressedPair).1.result = .ok () := rfl
  have endsDrifting : ((evaluatorOf .standard false).evaluate .adami [viscousRow] ⟨none, none⟩
      driftingPair).1.result = .ok () := rfl
  obtain ⟨separate, off⟩ := accumulators_separate .adami [viscousRow]
  exact ⟨otherBackground, repressed, otherTransport, drifting, ends, endsRepressed, endsDrifting,
    separate .acceleration _ _ _ _ _ _ otherBackground nofun repressed ends endsRepressed 0,
    separate .modifiedAcceleration _ _ _ _ _ _ otherTransport (fun _ => rfl) drifting ends
      endsDrifting 0,
    off _ _ _ _ rfl rfl 0⟩

end Evaluator

end ParticleMomentum
