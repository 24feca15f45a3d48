import ParticleMomentum.Proofs.Arithmetic.Signs
import ParticleMomentum.Proofs.Evaluation.Backends
import ParticleMomentum.Proofs.Evaluation.Faults

/-!
# Zero divisors in either loop

The two pair loops divide by the same numbers, but not for the same sides: for the generalized background
pressure the fused loop computes the factors of both sides before it adds either, and the stepwise loop
computes the factor of a side where that side is asked for. With the Monaghan scheme this makes no
difference, because the pressure gradient has divided by both squared densities before. With the Adami
scheme nothing has divided by a square, and the square of a small density vanishes where the density does
not. There the loops may part: at a pair that is `Lopsided` the fused loop always refuses a zero divisor,
and the stepwise loop, if it gets as far, adds the background pressure of the side that it asks first.

Everywhere else the loops agree entirely, in what they add, in the fault with which they end and in what
was added before it.
-/

namespace ParticleMomentum

open Arithmetic (isZero)
open Fault (IsZeroDivisor)

variable {α : Type} [Arithmetic α] {n : Nat}

namespace Particle

/-- The square of the density is zero; the density itself need not be. -/
def SquareVanishes (q : Particle α) : Prop := isZero (q.density * q.density) = true

instance : DecidablePred (SquareVanishes : Particle α → Prop) := fun q =>
  inferInstanceAs (Decidable (isZero (q.density * q.density) = true))

/-- A number can be divided by the squared density just if that does not vanish. -/
theorem exists_quotient_iff {q : Particle α} {x : α} :
    (∃ y, Arithmetic.quotient x (q.density * q.density) = .ok y) ↔ ¬ q.SquareVanishes := by
  rw [Arithmetic.quotient, SquareVanishes]
  cases isZero (q.density * q.density) <;> simp

end Particle

theorem Monaghan.exists_generalizedBackground {q : Particle α} (square : ¬ q.SquareVanishes)
    (pressure massOther slope : α) :
    ∃ x, generalizedBackground pressure massOther q.density slope = .ok x := by
  obtain ⟨y, hy⟩ := Particle.exists_quotient_iff (x := massOther).mpr square
  exact ⟨_, bind_eq_ok_iff.mpr ⟨y, hy, rfl⟩⟩

/-- The side of a pair that is asked first has a squared density to divide by, the other side has not.
Side `i` is asked first where it is owned. -/
def Lopsided (p : Sides (Particle α)) : Prop :=
  (p.i.owned = true ∧ ¬ p.i.SquareVanishes ∧ p.j.SquareVanishes) ∨
    (p.i.owned = false ∧ p.j.owned = true ∧ ¬ p.j.SquareVanishes ∧ p.i.SquareVanishes)

instance : DecidablePred (Lopsided : Sides (Particle α) → Prop) := fun p =>
  inferInstanceAs (Decidable ((p.i.owned = true ∧ ¬ p.i.SquareVanishes ∧ p.j.SquareVanishes) ∨
    (p.i.owned = false ∧ p.j.owned = true ∧ ¬ p.j.SquareVanishes ∧ p.i.SquareVanishes)))

namespace Fused

variable {scheme : Scheme} {p : Sides (Particle α)}

/-! ## The terms of a pair -/

/-- The shear forces, at a distance that is not zero. -/
theorem shear_eq {k distance : α} (apart : isZero distance = false)
    (check : scheme = .monaghan → Evaluator.negativeDiffusion? k p = .ok none) (rule : DivisionRule)
    (coefficient : Sides α) (direction : Vector3 α) :
    Stepwise.shear scheme k p distance coefficient direction =
      shear (branch scheme) rule k p distance coefficient direction := by
  cases scheme with
  | monaghan => exact shear_monaghan (check rfl) _ _ _ _
  | adami =>
      simp only [Stepwise.shear, Scheme.shearForces, Adami.shearForces, Fused.shear, branch_adami,
        DivisionRule.quotient_eq_extended apart]
      cases Adami.isViscous (p.map (·.viscosity))
      · rfl
      · simp only [if_true, Deposits.into_bind, Deposits.into_onSides]
        rfl

omit [Arithmetic α] in
/-- Adding on both sides at once, what `r` and `s` compute, is adding on one side after the other, if the
side that is asked first does not succeed alone. -/
theorem addBoth_eq {r s : Except (Fault α) α} (owned : Sides Bool)
    (anyone : (owned.i || owned.j) = true) (faultsI : FaultsIn IsZeroDivisor r)
    (faultsJ : FaultsIn IsZeroDivisor s)
    (ofI : owned.i = true → (∃ a, r = .ok a) → ∃ b, s = .ok b)
    (ofJ : owned.i = false → (∃ b, s = .ok b) → ∃ a, r = .ok a) (target : Target)
    (onI onJ : α → Vector3 α) :
    (do
      Trail.guarded owned.i do Trail.emit ⟨target, .i, onI (← r)⟩
      Trail.guarded owned.j do Trail.emit ⟨target, .j, onJ (← s)⟩ : Contributions α Unit) =
      (do
        let x ← (do return (← r, ← s) : Except (Fault α) (α × α))
        addBoth target owned (onI x.1) (onJ x.2)) := by
  obtain ⟨i, j⟩ := owned
  rcases r with f | a
  · cases faultsI f rfl
    cases i with
    | true => rfl
    | false =>
        -- side `j` is asked first, and must fail as well, by the same fault
        cases show j = true from anyone
        rcases s with g | b
        · cases faultsJ g rfl
          rfl
        · obtain ⟨a, ha⟩ := ofJ rfl ⟨b, rfl⟩
          cases ha
  · rcases s with g | b
    · cases i with
      | true =>
          obtain ⟨b, hb⟩ := ofI rfl ⟨a, rfl⟩
          cases hb
      | false =>
          cases show j = true from anyone
          rfl
    · cases i <;> cases j <;> rfl

/-- The Monaghan scheme divides by both squared densities for the pressure gradient. -/
theorem squares_of_pressureGradient {coefficient : Sides α} {direction : Vector3 α}
    (h : (pressureGradient (branch .monaghan) p coefficient direction).result = .ok ()) :
    ¬ p.i.SquareVanishes ∧ ¬ p.j.SquareVanishes := by
  obtain ⟨factor, hf, -⟩ := Trail.bind_result_eq_ok h
  obtain ⟨ofI, hi, hf⟩ := bind_eq_ok_iff.mp hf
  obtain ⟨ofJ, hj, -⟩ := bind_eq_ok_iff.mp hf
  exact ⟨Particle.exists_quotient_iff.mp ⟨ofI, hi⟩, Particle.exists_quotient_iff.mp ⟨ofJ, hj⟩⟩

/-- The generalized background pressure. -/
theorem generalizedBackground_eq (anyone : (p.i.owned || p.j.owned) = true)
    (squares : scheme = .monaghan → ¬ p.i.SquareVanishes ∧ ¬ p.j.SquareVanishes)
    (even : scheme = .adami → ¬ Lopsided p) (coefficient modifiedSlope : Sides α)
    (direction : Vector3 α) :
    Stepwise.background scheme .generalized p coefficient modifiedSlope direction =
      background (branch scheme) .generalized p coefficient modifiedSlope direction := by
  cases scheme with
  | monaghan =>
      obtain ⟨squareI, squareJ⟩ := squares rfl
      simp only [Stepwise.background, Scheme.generalizedBackground,
        Monaghan.generalizedBackgroundTerm, Deposits.into_bind, Deposits.into_guarded]
      exact addBoth_eq (p.map (·.owned)) anyone
        (Monaghan.generalizedBackground_faults _ _ _ _)
        (Monaghan.generalizedBackground_faults _ _ _ _)
        (fun _ _ => Monaghan.exists_generalizedBackground squareJ _ _ _)
        (fun _ _ => Monaghan.exists_generalizedBackground squareI _ _ _)
        .modifiedAcceleration (fun x => direction.scale (-x)) (fun x => direction.scale x)
  | adami =>
      simp only [Stepwise.background, Scheme.generalizedBackground,
        Adami.generalizedBackgroundTerm, Deposits.into_bind, Deposits.into_guarded]
      refine addBoth_eq (p.map (·.owned)) anyone (Arithmetic.quotient_faults _ _)
        (Arithmetic.quotient_faults _ _) (fun owned ofI => ?_)
        (fun (other : p.i.owned = false) ofJ => ?_)
        .modifiedAcceleration (fun x => direction.scale (-x)) (fun x => direction.scale x)
      · have squareI := Particle.exists_quotient_iff.mp ofI
        exact Particle.exists_quotient_iff.mpr fun vanishes =>
          even rfl (.inl ⟨owned, squareI, vanishes⟩)
      · have squareJ := Particle.exists_quotient_iff.mp ofJ
        rw [other, Bool.false_or] at anyone
        exact Particle.exists_quotient_iff.mpr fun vanishes =>
          even rfl (.inr ⟨other, anyone, squareJ, vanishes⟩)

/-! ## Pairs -/

/-- A pair that is not lopsided contributes the same in both loops, if its particles do not coincide. Of
the arithmetic it is asked that a multiple by one is the number itself, and the square of a zero is
zero. -/
theorem pair_eq (mul_one : ∀ x : α, x * 1.0 = x)
    (square : ∀ x : α, isZero x = true → isZero (x * x) = true) {plan : Plan α}
    {input : PairInput n α} (apart : isZero input.row.distance = false)
    (check : scheme = .monaghan → Evaluator.negativeDiffusion? plan.convectionFactor p = .ok none)
    (even : scheme = .adami → plan.background = .generalized → ¬ Lopsided p) (rule : DivisionRule) :
    Stepwise.pair scheme plan p input =
      pair (FormulationClass.ofScheme scheme).number rule plan p input := by
  rw [Stepwise.pair, pair]
  cases anyone : p.i.owned || p.j.owned
  · rfl
  simp only [Trail.guarded_true, ownedPair, Stepwise.ownedPair, pressureGradient_eq, coefficients_eq]
  refine Trail.bind_congr fun coefficient _ => ?_
  refine Trail.bind_congr fun _ gradient => ?_
  -- from here on the Monaghan scheme divides by nothing that it has not divided by before
  have squares : scheme = .monaghan → ¬ p.i.SquareVanishes ∧ ¬ p.j.SquareVanishes := by
    rintro rfl
    exact squares_of_pressureGradient gradient
  have nonzero {q : Particle α} (h : ¬ q.SquareVanishes) : isZero q.density = false :=
    Bool.eq_false_iff.mpr fun zero => h (square _ zero)
  rw [shear_eq apart check rule]
  refine Trail.bind_congr fun _ _ => ?_
  have background : Stepwise.background scheme plan.background p coefficient input.modifiedSlope
      input.row.direction = background (branch scheme) plan.background p coefficient
        input.modifiedSlope input.row.direction := by
    by_cases generalized : plan.background = .generalized
    · rw [generalized] at even ⊢
      exact generalizedBackground_eq anyone squares (fun adami => even adami rfl) _ _ _
    · exact background_eq mul_one generalized _ _ _ _
  have transport : Stepwise.transport scheme p coefficient input.row.direction =
      transport (branch scheme) rule p coefficient input.row.direction :=
    (transport_refinedBy rule p coefficient _).eq_of_ends <| transport_ends
      (fun monaghan => (squares monaghan).imp nonzero nonzero) rule coefficient _
  rw [background, transport]

/-- At a lopsided pair, the fused loop does not get past the generalized background pressure of the Adami
scheme. -/
theorem pair_of_lopsided (lopsided : Lopsided p) {plan : Plan α}
    (generalized : plan.background = .generalized) (rule : DivisionRule) (input : PairInput n α) :
    (pair (FormulationClass.ofScheme .adami).number rule plan p input).result ≠ .ok () := by
  intro h
  have anyone : (p.i.owned || p.j.owned) = true := by
    rcases lopsided with ⟨owned, -⟩ | ⟨-, owned, -⟩ <;> simp [owned]
  rw [pair, anyone, Trail.guarded_true] at h
  obtain ⟨coefficient, -, h⟩ := Trail.bind_result_eq_ok h
  obtain ⟨⟨⟩, -, h⟩ := Trail.bind_result_eq_ok h
  obtain ⟨⟨⟩, -, h⟩ := Trail.bind_result_eq_ok h
  obtain ⟨⟨⟩, hb, -⟩ := Trail.bind_result_eq_ok h
  rw [generalized] at hb
  obtain ⟨factors, hf, -⟩ := Trail.bind_result_eq_ok hb
  obtain ⟨ofI, hi, hf⟩ := bind_eq_ok_iff.mp hf
  obtain ⟨ofJ, hj, -⟩ := bind_eq_ok_iff.mp hf
  have squareI := Particle.exists_quotient_iff.mp ⟨ofI, hi⟩
  have squareJ := Particle.exists_quotient_iff.mp ⟨ofJ, hj⟩
  rcases lopsided with ⟨-, -, vanishes⟩ | ⟨-, -, -, vanishes⟩
  · exact squareJ vanishes
  · exact squareI vanishes

end Fused

namespace Evaluator

variable {ev : Evaluator α} {scheme : Scheme} {plan : Plan α} {e : Ensemble n α}
variable {rows : List (PairRow n α)} {modified : Sides (Option (List α))}
variable {inputs : List (PairInput n α)}

/-- Where the two loops may part: the Adami scheme applies the generalized background pressure to a
lopsided pair. -/
structure LoopsMayPart (ev : Evaluator α) (scheme : Scheme) (rows : List (PairRow n α))
    (e : Ensemble n α) : Prop where
  adami : scheme = .adami
  generalized : ∃ plan, ev.plan = some plan ∧ plan.background = .generalized
  lopsided : ∃ row ∈ rows, Lopsided (e.sides row)

/-! ## Evaluations -/

/-- Where the loops cannot part, the sweeps of both are the same. -/
theorem sweep_eq (mul_one : ∀ x : α, x * 1.0 = x)
    (square : ∀ x : α, isZero x = true → isZero (x * x) = true)
    (apart : ∀ row ∈ rows, isZero row.distance = false) (planned : ev.plan = some plan)
    (even : ¬ ev.LoopsMayPart scheme rows e)
    (check : (checkDiffusion (FormulationClass.ofScheme scheme) plan.convectionFactor e rows).result =
      .ok ())
    (rows_mem : ∀ input ∈ inputs, input.row ∈ rows) (rule : DivisionRule) :
    e.sweep (contributions (FormulationClass.ofScheme scheme) { plan with backend := .stepwise } rule
      e) inputs =
    e.sweep (contributions (FormulationClass.ofScheme scheme) { plan with backend := .fused } rule
      e) inputs := by
  refine Ensemble.sweep_congr fun input hmem => ?_
  have row_mem := rows_mem input hmem
  have pair : Stepwise.pair scheme plan (e.sides input.row) input =
      Fused.pair (FormulationClass.ofScheme scheme).number rule plan (e.sides input.row) input := by
    refine Fused.pair_eq mul_one square (apart _ row_mem) ?_ ?_ rule
    · rintro rfl
      exact checkDiffusion_result_eq_ok_iff.mp check rfl _ row_mem
    · exact fun adami generalized lopsided =>
        even ⟨adami, ⟨plan, planned, generalized⟩, _, row_mem, lopsided⟩
  cases scheme <;> exact pair

/-- Where the loops cannot part, the evaluations by both end alike and leave the same ensemble. -/
theorem evaluate_eq_of_even (mul_one : ∀ x : α, x * 1.0 = x)
    (square : ∀ x : α, isZero x = true → isZero (x * x) = true)
    (apart : ∀ row ∈ rows, isZero row.distance = false) (even : ¬ ev.LoopsMayPart scheme rows e) :
    (ev.withBackend .stepwise).evaluate (FormulationClass.ofScheme scheme) rows modified e =
      (ev.withBackend .fused).evaluate (FormulationClass.ofScheme scheme) rows modified e := by
  rcases planned : ev.plan with _ | plan
  · simp only [withBackend, planned, Option.map_none, evaluate]
  have stepwise := plan_withBackend planned .stepwise
  have fused := plan_withBackend planned .fused
  rcases fits : Evaluator.inputs rows modified with f | inputs
  · rw [evaluate_of_unfit stepwise fits, evaluate_of_unfit fused fits]
  rcases check : checkDiffusion (FormulationClass.ofScheme scheme) plan.convectionFactor e rows with
    ⟨l, f | ⟨⟩⟩
  · rw [evaluate_eq_of_refused stepwise fits check, evaluate_eq_of_refused fused fits check]
  · have check := congrArg Trail.result check
    rw [evaluate_of_checked stepwise fits check, evaluate_of_checked fused fits check]
    simp only [withBackend]
    rw [sweep_eq mul_one square apart planned even check (row_mem_of_mem_inputs fits)]

/-- Where the loops may part, the fused one refuses a zero divisor, provided that the modified slopes
fit. -/
theorem evaluate_fused_of_lopsided (part : ev.LoopsMayPart scheme rows e)
    (fits : Evaluator.inputs rows modified = .ok inputs) :
    ((ev.withBackend .fused).evaluate (FormulationClass.ofScheme scheme) rows modified e).1.result =
      .error .zeroDivisor := by
  obtain ⟨rfl, ⟨plan, planned, generalized⟩, row, row_mem, lopsided⟩ := part
  have fused := plan_withBackend planned .fused
  have check : (checkDiffusion (FormulationClass.ofScheme .adami)
      { plan with backend := .fused }.convectionFactor e rows).result = .ok () :=
    checkDiffusion_result_eq_ok_iff.mpr (by rintro ⟨⟩)
  rw [evaluate_result_of_checked fused fits check]
  rw [← map_row_inputs fits] at row_mem
  obtain ⟨input, input_mem, rfl⟩ := List.mem_map.mp row_mem
  have faults := sweep_faults (by rintro ⟨⟩) check (row_mem_of_mem_inputs fits)
    (ev.withBackend .fused).fusedRule
  refine faults.eq_zeroDivisor fun completes => ?_
  exact Fused.pair_of_lopsided lopsided generalized _ input
    (Ensemble.sweep_eq_ok_iff.mp completes input input_mem)

/-- On doubles, wherever the stepwise loop refuses a zero divisor, so does the fused one. Unless the loops
may part, both end alike, and both accumulators of every particle are the same, bit for bit, whatever the
evaluations end with; where they may part, the fused one always fails. -/
theorem loops_fail_alike (ev : Evaluator Float) (scheme : Scheme) (rows : List (PairRow n Float))
    (modified : Sides (Option (List Float))) (e : Ensemble n Float)
    (apart : ∀ row ∈ rows, isZero row.distance = false) :
    let stepwise :=
      (ev.withBackend .stepwise).evaluate (FormulationClass.ofScheme scheme) rows modified e
    let fused := (ev.withBackend .fused).evaluate (FormulationClass.ofScheme scheme) rows modified e
    (stepwise.1.result = .error .zeroDivisor → fused.1.result = .error .zeroDivisor) ∧
      (¬ ev.LoopsMayPart scheme rows e → stepwise = fused) ∧
      (ev.LoopsMayPart scheme rows e → ∀ inputs, Evaluator.inputs rows modified = .ok inputs →
        fused.1.result = .error .zeroDivisor) := by
  intro stepwise fused
  have even (h : ¬ ev.LoopsMayPart scheme rows e) : stepwise = fused :=
    evaluate_eq_of_even Double.mul_one (fun _ => Double.isZero_mul_self) apart h
  refine ⟨fun refused => ?_, even, fun part _ fits => evaluate_fused_of_lopsided part fits⟩
  by_cases part : ev.LoopsMayPart scheme rows e
  · obtain ⟨plan, planned, -⟩ := part.generalized
    rcases fits : Evaluator.inputs rows modified with f | inputs
    · have stepwise_eq : stepwise = _ :=
        evaluate_of_unfit (plan_withBackend planned .stepwise) fits
      have fused_eq : fused = _ := evaluate_of_unfit (plan_withBackend planned .fused) fits
      rw [stepwise_eq] at refused
      rw [fused_eq]
      exact refused
    · exact evaluate_fused_of_lopsided part fits
  · rw [← even part]
    exact refused

/-- An owned particle and a particle of another owner, one unit of length apart. The square of the
density of the other particle is below the least positive double. -/
def thinNeighbour : Ensemble 2 Float :=
  ⟨#v[
    { (Particle.fresh : Particle Float) with
      mass := 1.0, density := 1.0, backgroundPressure := 1.0, owned := true },
    { (Particle.fresh : Particle Float) with
      mass := 1e-200, density := 1e-200, backgroundPressure := 1.0, owned := false }]⟩

/-- An evaluator with the generalized background pressure, and nothing else switched on. -/
def generalizedOnly : Evaluator Float :=
  ⟨.null, some ⟨.generalized, false, .fused, 5.0⟩, .strict⟩

theorem loopsMayPart_thinNeighbour : generalizedOnly.LoopsMayPart .adami [viscousRow] thinNeighbour where
  adami := rfl
  generalized := ⟨_, rfl, rfl⟩
  lopsided := ⟨viscousRow, List.mem_singleton_self _, by decide +kernel⟩

theorem loops_fail_alike_thinNeighbour :
    (∀ row ∈ [viscousRow], isZero row.distance = false) ∧
      generalizedOnly.LoopsMayPart .adami [viscousRow] thinNeighbour ∧
      ((generalizedOnly.withBackend .fused).evaluate (FormulationClass.ofScheme .adami) [viscousRow]
        ⟨none, none⟩ thinNeighbour).1.result = .error .zeroDivisor := by
  have apart : ∀ row ∈ [viscousRow], isZero row.distance = false := by decide +kernel
  have part := loopsMayPart_thinNeighbour
  refine ⟨apart, part, ?_⟩
  exact (loops_fail_alike generalizedOnly .adami [viscousRow] ⟨none, none⟩ thinNeighbour apart).2.2 part
    _ rfl

/-- The fused loop may fail where the stepwise loop completes. -/
theorem fused_fails_alone :
    ¬ ∀ (ev : Evaluator Float) (scheme : Scheme) (rows : List (PairRow 2 Float))
        (modified : Sides (Option (List Float))) (e : Ensemble 2 Float),
      (∀ row ∈ rows, isZero row.distance = false) →
      (((ev.withBackend .fused).evaluate (FormulationClass.ofScheme scheme) rows modified e).1.result =
          .error .zeroDivisor ↔
        ((ev.withBackend .stepwise).evaluate (FormulationClass.ofScheme scheme) rows modified
          e).1.result = .error .zeroDivisor) := by
  intro alike
  have apart : ∀ row ∈ [viscousRow], isZero row.distance = false := by decide +kernel
  have refused : ((generalizedOnly.withBackend .fused).evaluate (FormulationClass.ofScheme .adami)
      [viscousRow] ⟨none, none⟩ thinNeighbour).1.result = .error .zeroDivisor :=
    evaluate_fused_of_lopsided loopsMayPart_thinNeighbour rfl
  have completes : ((generalizedOnly.withBackend .stepwise).evaluate
      (FormulationClass.ofScheme .adami) [viscousRow] ⟨none, none⟩ thinNeighbour).1.result.toBool =
      true := by decide +kernel
  rw [(alike _ _ _ _ _ apart).mp refused] at completes
  cases completes

end Evaluator

end ParticleMomentum
