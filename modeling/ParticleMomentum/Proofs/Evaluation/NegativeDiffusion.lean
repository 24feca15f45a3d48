import ParticleMomentum.Proofs.Arithmetic.Positive
import ParticleMomentum.Proofs.Evaluation.Faults

/-!
# Negative diffusion coefficients

An evaluation by the Monaghan formulation refuses a list of pairs that holds a negative diffusion
coefficient, and only such a list. On doubles the coefficients themselves can always be formed: their
divisors are sums of positive numbers. The check therefore finds the first offender of the list, and once
it has passed, nothing in the sweep through the pairs can come upon one: the only fault left there is a
zero divisor.

The check goes by the number of the formulation. A formulation with Monaghan's terms under another number
gets past it, and its stepwise loop then stops in the midst of a pair, with the pairs in front of it added.
-/

namespace ParticleMomentum

variable {n : Nat} {α : Type} [Arithmetic α]

/-! ## Diffusion coefficients -/

namespace Monaghan

/-- The harmonic combination of two viscosities, where both are positive; else zero. -/
def harmonic (scale : α) (viscosity : Sides α) : α :=
  if 0.0 < viscosity.i ∧ 0.0 < viscosity.j then
    2.0 * viscosity.i * viscosity.j / (scale * (viscosity.i + viscosity.j))
  else 0.0

/-- The harmonic mean of two bulk viscosities, where both are positive; else zero. -/
def harmonicBulk (viscosity : Sides α) : α :=
  if 0.0 < viscosity.i ∧ 0.0 < viscosity.j then
    2.0 * viscosity.i * viscosity.j / (viscosity.i + viscosity.j)
  else 0.0

/-- The diffusion coefficient: shear viscosity makes it larger, bulk viscosity makes it smaller. -/
def diffusionCoefficient (viscosity bulkViscosity : Sides α) : α :=
  5.0 * harmonic 3.0 viscosity - harmonicBulk bulkViscosity

end Monaghan

namespace NegativeDiffusion

/-- What is reported of two particles with a negative diffusion coefficient. -/
def ofSides (p : Sides (Particle α)) : NegativeDiffusion α :=
  let viscosity := p.map (·.viscosity)
  let bulkViscosity := p.map (·.bulkViscosity)
  ⟨Monaghan.diffusionCoefficient viscosity bulkViscosity, viscosity, bulkViscosity⟩

/-- The diffusion coefficient of two particles is negative. -/
def Between (p : Sides (Particle α)) : Prop := (ofSides p).coefficient < 0.0

instance : DecidablePred (Between : Sides (Particle α) → Prop) := fun p =>
  inferInstanceAs (Decidable ((ofSides p).coefficient < 0.0))

end NegativeDiffusion

/-! ## The check on doubles -/

theorem Double.quotient_of_pos {y : Float} (hy : 0.0 < y) (x : Float) :
    Arithmetic.quotient x y = .ok (x / y) := by
  rw [Arithmetic.quotient, isZero_of_pos hy]
  rfl

theorem Monaghan.combined_double (viscosity : Sides Float) :
    combined 3.0 viscosity = .ok (harmonic 3.0 viscosity) := by
  rw [combined, harmonic]
  split
  · next h => exact Double.quotient_of_pos (Double.three_mul_pos (Double.add_pos h.1 h.2)) _
  · rfl

theorem Monaghan.combinedBulk_double (viscosity : Sides Float) :
    combinedBulk viscosity = .ok (harmonicBulk viscosity) := by
  rw [combinedBulk, harmonicBulk]
  split
  · next h => exact Double.quotient_of_pos (Double.add_pos h.1 h.2) _
  · rfl

namespace Evaluator

variable {e : Ensemble n Float}

theorem negativeDiffusion?_double (k : Float) (p : Sides (Particle Float)) :
    negativeDiffusion? k p =
      .ok (if NegativeDiffusion.Between p then some (.ofSides p) else none) := by
  simp only [negativeDiffusion?, Monaghan.shearCoefficients, Monaghan.combined_double,
    Monaghan.combinedBulk_double]
  rfl

theorem firstNegativeDiffusion?_double (k : Float) (rows : List (PairRow n Float)) :
    firstNegativeDiffusion? k e rows =
      .ok ((rows.find? fun row => NegativeDiffusion.Between (e.sides row)).map fun row =>
        (row, .ofSides (e.sides row))) := by
  induction rows with
  | nil => rfl
  | cons row rest ih =>
      rw [firstNegativeDiffusion?, negativeDiffusion?_double, List.find?_cons]
      by_cases h : NegativeDiffusion.Between (e.sides row)
      · rw [decide_eq_true h, if_pos h]
        rfl
      · rw [decide_eq_false h, if_neg h]
        exact ih

/-- Where the formulation calls for a check, a list of pairs without a negative diffusion coefficient
passes it. -/
theorem check_of_find_eq_none {kind : FormulationClass} {rows : List (PairRow n Float)}
    (h : kind.checksDiffusion = true →
      rows.find? (fun row => NegativeDiffusion.Between (e.sides row)) = none) (k : Float) :
    (checkDiffusion kind k e rows).result = .ok () := by
  rw [checkDiffusion, firstNegativeDiffusion?_double]
  cases checks : kind.checksDiffusion
  · rfl
  · rw [h checks]
    rfl

/-- Where the formulation calls for a check and some pair has a negative diffusion coefficient, the check
refuses the first one. -/
theorem check_of_negative {kind : FormulationClass} {rows : List (PairRow n Float)}
    (checks : kind.checksDiffusion = true)
    (negative : ∃ row ∈ rows, NegativeDiffusion.Between (e.sides row)) (k : Float) :
    ∃ before row after, rows = before ++ row :: after ∧
      (∀ earlier ∈ before, ¬ NegativeDiffusion.Between (e.sides earlier)) ∧
      NegativeDiffusion.Between (e.sides row) ∧
      checkDiffusion kind k e rows =
        ⟨[.negativeDiffusionAt (row.labels.map (·.value))],
          .error (.negativeDiffusion (.ofSides (e.sides row)))⟩ := by
  rcases first : rows.find? (fun row => NegativeDiffusion.Between (e.sides row)) with _ | row
  · obtain ⟨row, hmem, hrow⟩ := negative
    exact absurd (decide_eq_true hrow) (List.find?_eq_none.mp first row hmem)
  · obtain ⟨hrow, before, after, split, earlier⟩ := List.find?_eq_some_iff_append.mp first
    refine ⟨before, row, after, split, fun other hmem => ?_, of_decide_eq_true hrow, ?_⟩
    · simpa using earlier other hmem
    · rw [checkDiffusion, checks, firstNegativeDiffusion?_double, first]
      rfl

end Evaluator

/-! ## The stepwise loop without a check -/

namespace Stepwise

/-- What a pair contributes by Monaghan's terms before its shear forces are asked for. -/
def beforeShear (p : Sides (Particle α)) (input : PairInput n α) : Contributions α Unit :=
  pressureGradient .monaghan p (Monaghan.coefficients (p.map (·.mass)) input.row.slope)
    input.row.direction

/-- The loop by Monaghan's terms stops in the midst of a pair that has an owned particle and a negative
diffusion coefficient. By then the pairs in front of it have been added, and its own pressure gradient. -/
def StopsMidway (plan : Plan Float) (e : Ensemble n Float) (inputs : List (PairInput n Float))
    (report : NegativeDiffusion Float) (left : Ensemble n Float) : Prop :=
  ∃ before input after reached, inputs = before ++ input :: after ∧
    e.sweep (fun input => pair .monaghan plan (e.sides input.row) input) before = (reached, .ok ()) ∧
    let p := e.sides input.row
    (p.i.owned || p.j.owned) = true ∧ (beforeShear p input).result = .ok () ∧
      NegativeDiffusion.Between p ∧ report = .ofSides p ∧
      left = (beforeShear p input).items.foldl (Ensemble.contribute input.row) reached

variable {plan : Plan Float} {p : Sides (Particle Float)} {input : PairInput n Float}

theorem shear_of_negative (negative : NegativeDiffusion.Between p) (k distance : Float)
    (coefficient : Sides Float) (direction : Vector3 Float) :
    shear .monaghan k p distance coefficient direction =
      ⟨[], .error (.negativeDiffusion (.ofSides p))⟩ := by
  have refuses : Monaghan.diffusionCoefficient (p.map (·.viscosity)) (p.map (·.bulkViscosity)) < 0.0 :=
    negative
  simp only [shear, Scheme.shearForces, Monaghan.shearForces, Monaghan.shearCoefficients,
    Monaghan.combined_double, Monaghan.combinedBulk_double]
  exact congrArg (Deposits.into .acceleration) (if_pos refuses)

theorem pair_of_negative (owned : (p.i.owned || p.j.owned) = true)
    (pressed : (beforeShear p input).result = .ok ()) (negative : NegativeDiffusion.Between p) :
    pair .monaghan plan p input =
      ⟨(beforeShear p input).items, .error (.negativeDiffusion (.ofSides p))⟩ := by
  rcases before : beforeShear p input with ⟨items, result⟩
  rw [before] at pressed
  cases pressed
  rw [pair, owned, Trail.guarded_true, ownedPair]
  change (beforeShear p input >>= _) = _
  rw [before, Trail.ok_bind, shear_of_negative negative]
  simp

/-- A pair is refused for a negative diffusion coefficient exactly if one of its particles is owned, its
pressure gradient can be formed, and it has such a coefficient. -/
theorem pair_refused_iff {report : NegativeDiffusion Float} :
    (pair .monaghan plan p input).result = .error (.negativeDiffusion report) ↔
      (p.i.owned || p.j.owned) = true ∧ (beforeShear p input).result = .ok () ∧
        NegativeDiffusion.Between p ∧ report = .ofSides p := by
  constructor
  · intro h
    have owned : (p.i.owned || p.j.owned) = true := by
      by_contra unowned
      rw [pair, Bool.eq_false_of_not_eq_true unowned] at h
      cases h
    have negative : NegativeDiffusion.Between p := by
      by_contra nonneg
      have checked : Evaluator.negativeDiffusion? plan.convectionFactor p = .ok none := by
        rw [Evaluator.negativeDiffusion?_double, if_neg nonneg]
      have divisor := pair_faults (fun _ => checked) input _ h
      cases divisor
    rcases before : (beforeShear p input).result with f | ⟨⟩
    · -- the pair has ended before its shear forces
      rw [pair, owned, Trail.guarded_true, ownedPair] at h
      change (beforeShear p input >>= _).result = _ at h
      rw [Trail.bind_result, before] at h
      cases h
      have divisor := Scheme.pressureGradient_faults .monaghan _ _ _ _ _ _ before
      cases divisor
    · rw [pair_of_negative owned before negative] at h
      cases h
      exact ⟨owned, rfl, negative, rfl⟩
  · rintro ⟨owned, pressed, negative, rfl⟩
    rw [pair_of_negative owned pressed negative]

/-- The loop by Monaghan's terms is refused for a negative diffusion coefficient exactly if it stops
midway. -/
theorem sweep_refused_iff {e left : Ensemble n Float} {inputs : List (PairInput n Float)}
    {report : NegativeDiffusion Float} :
    e.sweep (fun input => pair .monaghan plan (e.sides input.row) input) inputs =
        (left, .error (.negativeDiffusion report)) ↔
      StopsMidway plan e inputs report left := by
  rw [Ensemble.sweep_eq_error_iff, StopsMidway]
  constructor
  · rintro ⟨before, input, after, reached, split, swept, refused, rfl⟩
    obtain ⟨owned, pressed, negative, reported⟩ := pair_refused_iff.mp refused
    refine ⟨before, input, after, reached, split, swept, owned, pressed, negative, reported, ?_⟩
    rw [pair_of_negative owned pressed negative]
  · rintro ⟨before, input, after, reached, split, swept, owned, pressed, negative, rfl, rfl⟩
    refine ⟨before, input, after, reached, split, swept, ?_, ?_⟩
    all_goals rw [pair_of_negative owned pressed negative]

end Stepwise

namespace Evaluator

variable {e : Ensemble n Float}

/-! ## Evaluations -/

/-- Where the formulation bears the number of Monaghan's, an evaluation that has passed the check is not
refused for a negative diffusion coefficient. -/
theorem not_negativeDiffusion_of_checked {ev : Evaluator α} {plan : Plan α} {kind : FormulationClass}
    {rows : List (PairRow n α)} {modified : Sides (Option (List α))} {inputs : List (PairInput n α)}
    {e : Ensemble n α} (checks : kind.checksDiffusion = true) (planned : ev.plan = some plan)
    (fits : Evaluator.inputs rows modified = .ok inputs)
    (check : (checkDiffusion kind plan.convectionFactor e rows).result = .ok ())
    (report : NegativeDiffusion α) :
    (ev.evaluate kind rows modified e).1.result ≠ .error (.negativeDiffusion report) := by
  intro h
  rw [evaluate_result_of_checked planned fits check] at h
  have divisor := sweep_faults (fun _ => checks) check (row_mem_of_mem_inputs fits) ev.fusedRule _ h
  cases divisor

/-- The sweep of an evaluation is refused for a negative diffusion coefficient only in the stepwise loop,
and only by Monaghan's terms. -/
theorem stepwise_of_sweep_refused {kind : FormulationClass} {plan : Plan Float} {rule : DivisionRule}
    {inputs : List (PairInput n Float)} {report : NegativeDiffusion Float}
    (refused : (e.sweep (contributions kind plan rule e) inputs).2 = .error (.negativeDiffusion report)) :
    kind.scheme = .monaghan ∧ plan.backend = .stepwise := by
  by_contra other
  have pairs : ∀ input ∈ inputs,
      FaultsIn Fault.IsZeroDivisor (contributions kind plan rule e input).result := by
    intro input _
    rw [contributions]
    cases backend : plan.backend with
    | fused => exact Fused.pair_faults _ _ _ _ _
    | stepwise => exact Stepwise.pair_faults (fun scheme => absurd ⟨scheme, backend⟩ other) input
  have divisor := Ensemble.sweep_faults pairs _ refused
  cases divisor

theorem contributions_of_stepwise {kind : FormulationClass} {plan : Plan Float} {rule : DivisionRule}
    (scheme : kind.scheme = .monaghan) (stepwise : plan.backend = .stepwise) :
    contributions kind plan rule e =
      fun input => Stepwise.pair .monaghan plan (e.sides input.row) input := by
  funext input
  rw [contributions, stepwise, scheme]

/-- Without a check, an evaluation that stops midway leaves what it has added until then. -/
theorem evaluate_of_stopsMidway {ev : Evaluator Float} {plan : Plan Float} {kind : FormulationClass}
    {rows : List (PairRow n Float)} {modified : Sides (Option (List Float))}
    {inputs : List (PairInput n Float)} {report : NegativeDiffusion Float} {left : Ensemble n Float}
    (planned : ev.plan = some plan) (fits : Evaluator.inputs rows modified = .ok inputs)
    (number : kind.number ≠ FormulationClass.monaghan.number) (scheme : kind.scheme = .monaghan)
    (stepwise : plan.backend = .stepwise) (stops : Stepwise.StopsMidway plan e inputs report left) :
    ev.evaluate kind rows modified e = (⟨[], .error (.negativeDiffusion report)⟩, left) := by
  have unchecked : (checkDiffusion kind plan.convectionFactor e rows).result = .ok () :=
    check_of_find_eq_none (fun checks => absurd (beq_iff_eq.mp checks) number) _
  have sweep := Stepwise.sweep_refused_iff.mpr stops
  rw [evaluate_of_checked planned fits unchecked, contributions_of_stepwise scheme stepwise, sweep]

/-- On doubles, an evaluation by a formulation with the number of Monaghan's is refused for a negative
diffusion coefficient exactly if some pair has one, whether its particles are owned or not; it then
reports the first such pair, before it has added anything. A formulation with another number is not
checked. If it goes by Monaghan's terms, though, the stepwise loop can come upon a negative diffusion
coefficient by itself, and then leaves behind what it has added until then. No other evaluation is refused
so. -/
theorem evaluate_refuses_negativeDiffusion (ev : Evaluator Float) {plan : Plan Float}
    (planned : ev.plan = some plan) (kind : FormulationClass) (rows : List (PairRow n Float))
    (modified : Sides (Option (List Float))) {inputs : List (PairInput n Float)}
    (fits : Evaluator.inputs rows modified = .ok inputs) (e : Ensemble n Float) :
    let run := ev.evaluate kind rows modified e
    (kind.number = FormulationClass.monaghan.number →
      ((∃ report, run.1.result = .error (.negativeDiffusion report)) ↔
        ∃ row ∈ rows, NegativeDiffusion.Between (e.sides row)) ∧
      ∀ report, run.1.result = .error (.negativeDiffusion report) →
        run.2 = e ∧ ∃ before row after, rows = before ++ row :: after ∧
          (∀ earlier ∈ before, ¬ NegativeDiffusion.Between (e.sides earlier)) ∧
          NegativeDiffusion.Between (e.sides row) ∧ report = .ofSides (e.sides row) ∧
          run.1.items = [.negativeDiffusionAt (row.labels.map (·.value))]) ∧
    (kind.number ≠ FormulationClass.monaghan.number → ∀ report left,
      run.1.result = .error (.negativeDiffusion report) ∧ run.2 = left ↔
        kind.scheme = .monaghan ∧ plan.backend = .stepwise ∧
          Stepwise.StopsMidway plan e inputs report left) := by
  intro run
  refine ⟨fun number => ?_, fun number report left => ?_⟩
  · have checks : kind.checksDiffusion = true := beq_iff_eq.mpr number
    have negative_of_refused : (∃ report, run.1.result = .error (.negativeDiffusion report)) →
        ∃ row ∈ rows, NegativeDiffusion.Between (e.sides row) := by
      rintro ⟨report, h⟩
      by_contra none_negative
      have passes : (checkDiffusion kind plan.convectionFactor e rows).result = .ok () :=
        check_of_find_eq_none (fun _ => List.find?_eq_none.mpr fun row hmem hrow =>
          none_negative ⟨row, hmem, of_decide_eq_true hrow⟩) _
      exact not_negativeDiffusion_of_checked checks planned fits passes report h
    refine ⟨⟨negative_of_refused, fun negative => ?_⟩, fun report h => ?_⟩
    · obtain ⟨before, row, after, -, -, -, check⟩ :=
        check_of_negative checks negative plan.convectionFactor
      have refused : run = _ := evaluate_eq_of_refused planned fits check
      exact ⟨_, congrArg (·.1.result) refused⟩
    · obtain ⟨before, row, after, split, earlier, hrow, check⟩ :=
        check_of_negative checks (negative_of_refused ⟨report, h⟩) plan.convectionFactor
      have refused : run = _ := evaluate_eq_of_refused planned fits check
      rw [refused] at h ⊢
      cases h
      exact ⟨rfl, before, row, after, split, earlier, hrow, rfl, rfl⟩
  · have unchecked : (checkDiffusion kind plan.convectionFactor e rows).result = .ok () :=
      check_of_find_eq_none (fun checks => absurd (beq_iff_eq.mp checks) number) _
    constructor
    · rintro ⟨refused, rfl⟩
      have swept : run = _ := evaluate_of_checked planned fits unchecked
      rw [swept] at refused ⊢
      rcases sweep : e.sweep (contributions kind plan ev.fusedRule e) inputs with ⟨left, f | ⟨⟩⟩
      · rw [sweep] at refused
        cases refused
        obtain ⟨scheme, stepwise⟩ := stepwise_of_sweep_refused (congrArg Prod.snd sweep)
        rw [contributions_of_stepwise scheme stepwise] at sweep
        exact ⟨scheme, stepwise, Stepwise.sweep_refused_iff.mp sweep⟩
      · rw [sweep] at refused
        cases refused
    · rintro ⟨scheme, stepwise, stops⟩
      have stopped : run = _ := evaluate_of_stopsMidway planned fits number scheme stepwise stops
      rw [stopped]
      exact ⟨rfl, rfl⟩

/-- Two particles whose bulk viscosity outweighs their shear viscosity; neither is owned. -/
def bulkyPair : Ensemble 2 Float :=
  ⟨Vector.replicate 2
    { (Particle.fresh : Particle Float) with viscosity := 1.0, bulkViscosity := 2.0, owned := false }⟩

def bulkyRow : PairRow 2 Float := Neighbours.rowOf ⟨0, 1, ⟨1.0, 0.0, 0.0⟩, 1.0⟩ (-0.5)

def shearOnly : Evaluator Float := ⟨.null, some ⟨.off, false, .stepwise, 5.0⟩, .strict⟩

/-- Monaghan's terms under a number of their own. -/
def renumberedMonaghan : FormulationClass := ⟨"RenumberedMonaghan", 7, .monaghan⟩

/-- The two particles, owned and under pressure. -/
def pressedBulkyPair : Ensemble 2 Float :=
  ⟨Vector.replicate 2
    { (Particle.fresh : Particle Float) with pressure := 1.0, viscosity := 1.0, bulkViscosity := 2.0 }⟩

theorem pressedBulkyPair_stopsMidway :
    ∃ left, Stepwise.StopsMidway ⟨.off, false, .stepwise, 5.0⟩ pressedBulkyPair [⟨bulkyRow, bulkyRow.slope⟩]
      (.ofSides (pressedBulkyPair.sides bulkyRow)) left := by
  have negative : NegativeDiffusion.Between (pressedBulkyPair.sides bulkyRow) := by decide +kernel
  have pressed : (Stepwise.beforeShear (pressedBulkyPair.sides bulkyRow)
      ⟨bulkyRow, bulkyRow.slope⟩).result.toBool = true := by decide +kernel
  refine ⟨_, [], _, [], pressedBulkyPair, rfl, rfl, rfl, ?_, negative, rfl, rfl⟩
  revert pressed
  rcases (Stepwise.beforeShear _ _).result with f | ⟨⟩
  · nofun
  · exact fun _ => rfl

theorem evaluate_refuses_bulkyPair :
    ((∃ report, (shearOnly.evaluate .monaghan [bulkyRow] ⟨none, none⟩ bulkyPair).1.result =
        .error (.negativeDiffusion report)) ∧
      (shearOnly.evaluate .monaghan [bulkyRow] ⟨none, none⟩ bulkyPair).2 = bulkyPair) ∧
    (shearOnly.evaluate renumberedMonaghan [bulkyRow] ⟨none, none⟩ pressedBulkyPair).1.result =
      .error (.negativeDiffusion (.ofSides (pressedBulkyPair.sides bulkyRow))) := by
  constructor
  · have negative : NegativeDiffusion.Between (bulkyPair.sides bulkyRow) := by decide +kernel
    obtain ⟨main, -⟩ := evaluate_refuses_negativeDiffusion shearOnly rfl .monaghan [bulkyRow]
      ⟨none, none⟩ rfl bulkyPair
    obtain ⟨report, refused⟩ := (main rfl).1.mpr ⟨bulkyRow, List.mem_singleton_self _, negative⟩
    exact ⟨⟨report, refused⟩, ((main rfl).2 report refused).1⟩
  · obtain ⟨-, main⟩ := evaluate_refuses_negativeDiffusion shearOnly rfl renumberedMonaghan [bulkyRow]
      ⟨none, none⟩ rfl pressedBulkyPair
    obtain ⟨left, stops⟩ := pressedBulkyPair_stopsMidway
    exact ((main (by decide) _ left).mpr ⟨rfl, rfl, stops⟩).1

/-- Under a number of its own, Monaghan's formulation is refused in the midst of the pair, when its pressure
gradient has been added. -/
theorem evaluate_refuses_midway :
    let run := shearOnly.evaluate renumberedMonaghan [bulkyRow] ⟨none, none⟩ pressedBulkyPair
    renumberedMonaghan.number ≠ FormulationClass.monaghan.number ∧
      (∃ report, run.1.result = .error (.negativeDiffusion report)) ∧ run.2 ≠ pressedBulkyPair := by
  intro run
  obtain ⟨left, stops⟩ := pressedBulkyPair_stopsMidway
  have stopped : run = _ := evaluate_of_stopsMidway rfl rfl (by decide) rfl rfl stops
  refine ⟨by decide, ⟨_, congrArg (·.1.result) stopped⟩, fun same => ?_⟩
  have pushed := congrArg (fun e : Ensemble 2 Float => e.particles[(0 : Fin 2)].acceleration.x) same
  have differs : run.2.particles[(0 : Fin 2)].acceleration.x ≠
      pressedBulkyPair.particles[(0 : Fin 2)].acceleration.x := by
    decide +kernel
  exact differs pushed

end Evaluator

end ParticleMomentum
